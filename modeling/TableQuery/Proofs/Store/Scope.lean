import TableQuery.Proofs.Sql.Lists
import TableQuery.Store.Scope

/-!
# What is in scope

A larger scope has all columns of a smaller one (`Scope.has_mono`), and of tables with different names the column of
one is in scope as soon as some table of that name is (`Scope.has_of_name`). A scalar is in scope if the columns
that it is read from are, provided that its list is held by the table of its members (`Members.isHeld`). What the
parts of clauses need is all that the clauses need.
-/

set_option autoImplicit false

namespace TableQuery.Sql

/-! ## Columns -/

namespace Scope

variable {scope scope' : Scope} {r : Ref}

theorem has_mono (h : scope ⊆ scope') (hr : scope.has r = true) : scope'.has r = true := by
  obtain ⟨t, ht, htable⟩ := List.any_eq_true.1 hr
  exact List.any_eq_true.2 ⟨t, h ht, htable⟩

/-- **Of tables with different names a column is in scope if a table of its name is.** -/
theorem has_of_name (h : scope ⊆ scope') (hnames : ∀ t ∈ scope', ∀ t' ∈ scope', t'.name = t.name → t' = t)
    (hr : scope'.has r = true) {t : Table} (ht : t ∈ scope) (hname : t.name = r.source) : scope.has r = true := by
  obtain ⟨t', ht', htable⟩ := List.any_eq_true.1 hr
  have hname' : t'.name = r.source := beq_iff_eq.1 (Bool.and_eq_true_iff.1 htable).1
  have heq : t' = t := hnames t (h ht) t' ht' (hname'.trans hname.symm)
  exact List.any_eq_true.2 ⟨t, ht, heq ▸ htable⟩

end Scope

def Condition.refs : Condition → List Ref
  | sameAs l r => [l, r]
  | equals r _ | among r _ _ => [r]

theorem Condition.resolves_iff {scope : Scope} {c : Condition} :
    c.resolves scope = true ↔ ∀ r ∈ c.refs, scope.has r = true := by
  cases c <;> simp [resolves, refs]

/-! ## Lists -/

namespace Members

variable {scope : Scope} {m : Members}

/-- The table of the members has what the list shows of them and demands of them. -/
def isHeld (m : Members) : Bool :=
  Scope.has [m.table] m.value && Scope.has [m.table] m.child && m.criteria.all (·.resolves [m.table])

theorem resolves_of_isHeld (h : m.isHeld = true) (hparent : scope.has m.parent = true) : m.resolves scope = true := by
  have hinner : [m.table] ⊆ m.table :: scope := List.cons_subset_cons _ (List.nil_subset _)
  simp only [isHeld, Bool.and_eq_true, List.all_eq_true] at h
  obtain ⟨⟨hvalue, hchild⟩, hcriteria⟩ := h
  simp only [resolves, Bool.and_eq_true, List.all_eq_true]
  refine ⟨⟨⟨Scope.has_mono hinner hvalue, Scope.has_mono hinner hchild⟩,
    Scope.has_mono (List.subset_cons_self _ _) hparent⟩, fun c hc => ?_⟩
  have hrefs := Condition.resolves_iff.1 (hcriteria c hc)
  exact Condition.resolves_iff.2 fun r hr => Scope.has_mono hinner (hrefs r hr)

theorem isHeld_where (h : m.isHeld = true) {c : Condition} (hc : ∀ r ∈ c.refs, Scope.has [m.table] r = true) :
    (m.where_ c).isHeld = true := by
  simp only [isHeld, where_, List.all_append, List.all_cons, List.all_nil, Bool.and_true, Bool.and_eq_true] at h ⊢
  exact ⟨h.1, h.2, Condition.resolves_iff.2 hc⟩

theorem isHeld_where_value (h : m.isHeld = true) {c : Condition} (hc : c.refs = [m.value]) :
    (m.where_ c).isHeld = true := by
  refine isHeld_where h fun r hr => ?_
  rw [hc, List.mem_singleton] at hr
  rw [isHeld, Bool.and_eq_true, Bool.and_eq_true] at h
  exact hr ▸ h.1.1

end Members

theorem Scalar.resolves_of_refs {scope : Scope} {s : Scalar} (hrefs : ∀ r ∈ s.refs, scope.has r = true)
    (hlists : ∀ m ∈ s.lists, m.isHeld = true) : s.resolves scope = true := by
  cases s with
  | column r | nullTest r n => exact hrefs r (List.mem_singleton_self r)
  | rowCount => rfl
  | joined m =>
    exact Members.resolves_of_isHeld (hlists m (List.mem_singleton_self m)) (hrefs _ (List.mem_singleton_self _))

/-! ## Clauses -/

namespace Clause

variable {scope : Scope}

theorem allResolve_iff {cs : List Clause} : allResolve scope cs = true ↔ ∀ c ∈ cs, c.resolves scope = true := by
  induction cs with
  | nil => simp [allResolve]
  | cons c cs ih => simp [allResolve, ih]

theorem resolves_negate (c : Clause) : c.negate.resolves scope = c.resolves scope := by
  cases c <;> rfl

theorem resolves_conj {cs : List Clause} (h : ∀ c ∈ cs, c.resolves scope = true) :
    (conj cs).resolves scope = true :=
  conj_induct (P := fun c => c.resolves scope = true) (fun _ => rfl) (fun _ => allResolve_iff.2) h

theorem resolves_disj {cs : List Clause} (h : ∀ c ∈ cs, c.resolves scope = true) :
    (disj cs).resolves scope = true :=
  disj_induct (P := fun c => c.resolves scope = true) (fun _ => rfl) (fun _ => allResolve_iff.2) h

end Clause

/-! ## Joins -/

namespace Query

/-- One more join refers to its own table and to those before. -/
theorem joinsResolve_append {scope : Scope} {js : List Join} {j : Join} :
    joinsResolve scope (js ++ [j]) =
      (joinsResolve scope js && j.on.all (·.resolves (scope ++ js.map (·.table) ++ [j.table]))) := by
  induction js generalizing scope with
  | nil => simp [joinsResolve]
  | cons k js ih =>
    rw [List.cons_append, joinsResolve, joinsResolve, ih, Bool.and_assoc]
    simp only [List.map_cons, List.append_assoc, List.cons_append, List.nil_append]

end Query

end TableQuery.Sql
