import Mathlib.Data.List.Forall2
import TableQuery.Request.Complaint

/-!
# Outcomes

When computations that may fail succeed, or fail, one after the other, on the items of a list, and with complaints
that are put together.
-/

set_option autoImplicit false

namespace TableQuery

theorem bind_eq_ok {ε α β : Type} {x : Except ε α} {f : α → Except ε β} {b : β} :
    (x >>= f) = .ok b ↔ ∃ a, x = .ok a ∧ f a = .ok b := by
  cases x <;> simp [bind, Except.bind]

theorem map_eq_ok {ε α β : Type} {f : α → β} {x : Except ε α} {b : β} :
    x.map f = .ok b ↔ ∃ a, x = .ok a ∧ f a = b := by
  cases x <;> simp [Except.map]

theorem mapError_eq_ok {ε ε' α : Type} {f : ε → ε'} {x : Except ε α} {a : α} : x.mapError f = .ok a ↔ x = .ok a := by
  cases x <;> simp [Except.mapError]

theorem bind_eq_error {ε α β : Type} {x : Except ε α} {f : α → Except ε β} {e : ε} :
    (x >>= f) = .error e ↔ x = .error e ∨ ∃ a, x = .ok a ∧ f a = .error e := by
  cases x <;> simp [bind, Except.bind]

theorem map_eq_error {ε α β : Type} {f : α → β} {x : Except ε α} {e : ε} : x.map f = .error e ↔ x = .error e := by
  cases x <;> simp [Except.map]

/-! ## Outcomes that agree -/

/-- Two computations both fail, or both succeed with results that are related. -/
inductive Agree {ε α β : Type} (R : α → β → Prop) : Except ε α → Except ε β → Prop
  | error (e e' : ε) : Agree R (.error e) (.error e')
  | ok {a : α} {b : β} : R a b → Agree R (.ok a) (.ok b)

namespace Agree

variable {ε α β γ δ : Type} {R : α → β → Prop} {S : γ → δ → Prop} {x : Except ε α} {y : Except ε β}

theorem exists_of_ok {a : α} (h : Agree R (.ok a) y) : ∃ b, y = .ok b ∧ R a b := by
  cases h with
  | ok hab => exact ⟨_, rfl, hab⟩

theorem map {f : α → γ} {g : β → δ} (h : Agree R x y) (hfg : ∀ {a b}, R a b → S (f a) (g b)) :
    Agree S (x.map f) (y.map g) := by
  cases h with
  | error e e' => exact .error e e'
  | ok hab => exact .ok (hfg hab)

theorem bind {f : α → Except ε γ} {g : β → Except ε δ} (h : Agree R x y)
    (hfg : ∀ {a b}, x = .ok a → R a b → Agree S (f a) (g b)) : Agree S (x.bind f) (y.bind g) := by
  cases h with
  | error e e' => exact .error e e'
  | ok hab => exact hfg rfl hab

end Agree

/-! ## Items of a list -/

section Items

variable {ε α β : Type} {f : α → Except ε β}

/-- What may fail makes one item of each, if it does not fail. -/
theorem forall₂_of_mapM : ∀ {xs : List α} {ys : List β}, xs.mapM f = .ok ys →
    List.Forall₂ (fun x y => f x = .ok y) xs ys
  | [], ys, h => by
    cases h
    exact .nil
  | x :: xs, ys, h => by
    rw [List.mapM_cons, bind_eq_ok] at h
    obtain ⟨y, hy, h⟩ := h
    obtain ⟨ys', hys, h⟩ := bind_eq_ok.1 h
    cases h
    exact .cons hy (forall₂_of_mapM hys)

theorem mapM_of_forall₂ {xs : List α} {ys : List β} (h : List.Forall₂ (fun x y => f x = .ok y) xs ys) :
    xs.mapM f = .ok ys := by
  induction h with
  | nil => rfl
  | cons hxy _ ih =>
    rw [List.mapM_cons, hxy, ih]
    rfl

theorem length_of_mapM {xs : List α} {ys : List β} (h : xs.mapM f = .ok ys) : ys.length = xs.length :=
  (forall₂_of_mapM h).length_eq.symm

theorem exists_of_mem_forall₂ {R : α → β → Prop} {xs : List α} {ys : List β} (h : List.Forall₂ R xs ys) {y : β}
    (hy : y ∈ ys) : ∃ x ∈ xs, R x y := by
  induction h with
  | nil => cases hy
  | @cons x _ xs _ hxy _ ih =>
    rcases List.mem_cons.1 hy with rfl | hy
    · exact ⟨x, List.mem_cons_self, hxy⟩
    · obtain ⟨x', hx', hrel⟩ := ih hy
      exact ⟨x', List.mem_cons_of_mem _ hx', hrel⟩

/-- Lists that are related item by item to one and the same list are related by way of its items. -/
theorem forall₂_comp {γ : Type} {R : α → β → Prop} {S : β → γ → Prop} {xs : List α} {ys : List β} {zs : List γ}
    (h : List.Forall₂ R xs ys) (h' : List.Forall₂ S ys zs) :
    List.Forall₂ (fun x z => ∃ y, R x y ∧ S y z) xs zs := by
  induction h generalizing zs with
  | nil =>
    cases h'
    exact .nil
  | cons hxy _ ih =>
    obtain ⟨z, zs, hyz, hrest, rfl⟩ := List.forall₂_cons_left_iff.1 h'
    exact .cons ⟨_, hxy, hyz⟩ (ih hrest)

theorem exists_of_mem_mapM {xs : List α} {ys : List β} (h : xs.mapM f = .ok ys) {y : β} (hy : y ∈ ys) :
    ∃ x ∈ xs, f x = .ok y :=
  exists_of_mem_forall₂ (forall₂_of_mapM h) hy

theorem map_of_mapM {γ : Type} {g : α → γ} {h : β → γ} {xs : List α} {ys : List β}
    (hf : ∀ x ∈ xs, ∀ y, f x = .ok y → h y = g x) (hys : xs.mapM f = .ok ys) : ys.map h = xs.map g := by
  have hitems := forall₂_of_mapM hys
  clear hys
  induction hitems with
  | nil => rfl
  | @cons x y xs ys hxy _ ih =>
    rw [List.forall_mem_cons] at hf
    rw [List.map_cons, List.map_cons, hf.1 y hxy, ih hf.2]

theorem exists_map_ok {xs : List α} : (∃ ys : List β, xs.map f = ys.map .ok) ↔ ∀ x ∈ xs, ∃ y, f x = .ok y := by
  induction xs with
  | nil => simp
  | cons x xs ih =>
    rw [List.forall_mem_cons, ← ih]
    constructor
    · rintro ⟨ys, hys⟩
      obtain ⟨y, ys, rfl, hy, hys⟩ := List.map_eq_cons_iff.1 hys.symm
      exact ⟨⟨y, hy.symm⟩, ys, hys.symm⟩
    · rintro ⟨⟨y, hy⟩, ys, hys⟩
      exact ⟨y :: ys, by rw [List.map_cons, List.map_cons, hy, hys]⟩

/-- What fails on no item does not fail on the list. -/
theorem exists_mapM : ∀ {xs : List α}, (∀ x ∈ xs, ∃ y, f x = .ok y) → ∃ ys, xs.mapM f = .ok ys
  | [], _ => ⟨[], rfl⟩
  | x :: xs, h => by
    obtain ⟨y, hy⟩ := h x List.mem_cons_self
    obtain ⟨ys, hys⟩ := exists_mapM fun x hx => h x (List.mem_cons_of_mem _ hx)
    exact ⟨y :: ys, by rw [List.mapM_cons, hy, hys]; rfl⟩

/-- What fails in one way only fails on a list that has an item on which it fails. -/
theorem mapM_eq_error {e : ε} : ∀ {xs : List α}, (∀ x ∈ xs, (∃ y, f x = .ok y) ∨ f x = .error e) →
    (∃ x ∈ xs, f x = .error e) → xs.mapM f = .error e
  | [], _, h => by
    obtain ⟨x, hx, -⟩ := h
    cases hx
  | x :: xs, hall, h => by
    obtain ⟨hx, hxs⟩ := List.forall_mem_cons.1 hall
    rw [List.mapM_cons]
    rcases hx with ⟨y, hy⟩ | hfail
    · have hrest : ∃ x ∈ xs, f x = .error e := by
        obtain ⟨x', hx', hfail⟩ := h
        rcases List.mem_cons.1 hx' with rfl | hx'
        · rw [hy] at hfail
          cases hfail
        · exact ⟨x', hx', hfail⟩
      rw [hy, mapM_eq_error hxs hrest]
      rfl
    · rw [hfail]
      rfl

/-- What is made of every item of a list is made of the list. -/
theorem mapM_map_of_ok {γ : Type} {g : γ → α} {h : γ → β} :
    ∀ {xs : List γ}, (∀ x ∈ xs, f (g x) = .ok (h x)) → (xs.map g).mapM f = .ok (xs.map h)
  | [], _ => rfl
  | x :: xs, hf => by
    obtain ⟨hx, hxs⟩ := List.forall_mem_cons.1 hf
    rw [List.map_cons, List.mapM_cons, hx, mapM_map_of_ok hxs]
    rfl

end Items

/-! ## Complaints -/

namespace Checked

variable {α β : Type}

theorem after_eq_ok {own : List FieldError} {c : Checked α} {a : α} :
    c.after own = .ok a ↔ own = [] ∧ c = .ok a := by
  cases c with
  | error es => simp [after]
  | ok b => cases own <;> simp [after]

theorem under_eq_ok {parts : List String} {c : Checked α} {a : α} : c.under parts = .ok a ↔ c = .ok a := by
  cases c <;> simp [under, Except.mapError]

theorem both_eq_ok {a : Checked α} {b : Checked β} {p : α × β} :
    a.both b = .ok p ↔ a = .ok p.1 ∧ b = .ok p.2 := by
  obtain ⟨x, y⟩ := p
  cases a <;> cases b <;> simp [both]

/-- A list is checked iff all its items are. -/
theorem all_eq_ok : ∀ {cs : List (Checked α)} {as : List α}, all cs = .ok as ↔ cs = as.map .ok
  | [], as => by cases as <;> simp [all]
  | c :: cs, as => by
    simp only [all, map_eq_ok, both_eq_ok, all_eq_ok]
    constructor
    · rintro ⟨⟨a, as'⟩, ⟨rfl, rfl⟩, rfl⟩
      rfl
    · cases as with
      | nil => intro h; cases h
      | cons a as' =>
        intro h
        cases h
        exact ⟨(a, as'), ⟨rfl, rfl⟩, rfl⟩

theorem map_under_zipIdx {cs : List (Checked α)} {as : List α} (k : Nat) :
    ((cs.zipIdx k).map fun (c, i) => c.under [toString i]) = as.map .ok ↔ cs = as.map .ok := by
  induction cs generalizing as k with
  | nil => cases as <;> simp
  | cons c cs ih =>
    cases as with
    | nil => simp
    | cons a as =>
      rw [List.zipIdx_cons, List.map_cons, List.map_cons, List.cons.injEq, List.cons.injEq, under_eq_ok, ih]

theorem numbered_eq_ok {cs : List (Checked α)} {as : List α} : numbered cs = .ok as ↔ cs = as.map .ok := by
  rw [numbered, all_eq_ok]
  exact map_under_zipIdx 0

end Checked

end TableQuery
