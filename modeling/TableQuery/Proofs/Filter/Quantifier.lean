/-!
# All of a list, or some of it

An operation on filters asks for all its parts or for some of them. `quantify` has both as one function of the
flag that tells them apart, so that the laws of the two are stated once: the dual law (`quantify_bne`), and what
a part does that decides or that changes nothing (`quantify_cons_of_ne`, `quantify_cons_of_eq`).
-/

set_option autoImplicit false

namespace TableQuery

variable {α β : Type} {all : Bool} {p q : α → Bool}

/-- All items satisfy `p`, or some of them do if `all` is not set. -/
def quantify (all : Bool) (p : α → Bool) (xs : List α) : Bool :=
  if all then xs.all p else xs.any p

@[simp] theorem quantify_nil : quantify all p [] = all := by
  cases all <;> rfl

@[simp] theorem quantify_singleton {x : α} : quantify all p [x] = p x := by
  cases all <;> simp [quantify]

theorem quantify_cons_of_eq {x : α} {xs : List α} (h : p x = all) :
    quantify all p (x :: xs) = quantify all p xs := by
  cases all <;> simp [quantify, h]

theorem quantify_cons_of_ne {x : α} {xs : List α} (h : p x = !all) : quantify all p (x :: xs) = !all := by
  cases all <;> simp_all [quantify]

theorem quantify_cons_of_tail_ne {x : α} {xs : List α} (h : quantify all p xs = !all) :
    quantify all p (x :: xs) = !all := by
  cases all <;> simp_all [quantify]

/-- Only the truth value of the first item counts. -/
theorem quantify_cons_congr {x y : α} {xs ys : List α} (h : p x = p y)
    (hs : quantify all p xs = quantify all p ys) :
    quantify all p (x :: xs) = quantify all p (y :: ys) := by
  cases all <;> simp_all [quantify]

theorem quantify_append {x : α} {xs ys : List α} (h : quantify all p xs = p x) :
    quantify all p (xs ++ ys) = quantify all p (x :: ys) := by
  cases all <;> simp_all [quantify]

theorem quantify_map (f : β → α) (xs : List β) :
    quantify all p (xs.map f) = quantify all (fun x => p (f x)) xs := by
  cases all <;> simp [quantify, Function.comp_def]

theorem quantify_eq_of_map_eq {q : β → Bool} {xs : List α} {ys : List β} (h : xs.map p = ys.map q) :
    quantify all p xs = quantify all q ys := by
  have hid := congrArg (quantify all id) h
  rwa [quantify_map, quantify_map] at hid

theorem quantify_congr {xs : List α} (h : ∀ x ∈ xs, p x = q x) : quantify all p xs = quantify all q xs := by
  induction xs with
  | nil => rw [quantify_nil, quantify_nil]
  | cons x xs ih =>
    have hx := h x List.mem_cons_self
    have hxs := ih fun y hy => h y (List.mem_cons_of_mem _ hy)
    cases all <;> simp_all [quantify]

/-- **The opposite of an operation is the dual operation on the opposites.** -/
theorem quantify_bne (inverse : Bool) (xs : List α) :
    quantify (all != inverse) (fun x => p x != inverse) xs = (quantify all p xs != inverse) := by
  cases inverse with
  | false => simp
  | true => cases all <;> simp [quantify, List.not_all_eq_any_not, List.not_any_eq_all_not]

end TableQuery
