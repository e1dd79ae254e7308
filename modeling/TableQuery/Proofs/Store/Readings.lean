import TableQuery.Proofs.Store.Aliases

/-!
# What is read from a row

What a query computes from a joined row depends on nothing but the columns that it refers to, those from inside of
lists included: in two rows that have the same in these columns (`Env.Agree`), scalars have the same values and
clauses the same truth (`Scalar.value_of_agree`, `Clause.holds_of_agree`).
-/

set_option autoImplicit false

namespace TableQuery.Sql

variable {store : Store} {env env' : Env}

/-- Two rows have the same in some columns. -/
def Env.Agree (env env' : Env) (refs : List Ref) : Prop := ∀ ref ∈ refs, env.read ref = env'.read ref

theorem Env.Agree.mono {refs refs' : List Ref} (h : env.Agree env' refs) (hsub : refs' ⊆ refs) :
    env.Agree env' refs' :=
  fun ref href => h ref (hsub href)

/-- Rows that have the same in a column have the same in it beside one more row. -/
theorem Env.read_cons_congr {name : String} {row : Row} {ref : Ref}
    (h : ref.source ≠ name → env.read ref = env'.read ref) :
    Env.read ((name, row) :: env) ref = Env.read ((name, row) :: env') ref := by
  by_cases hsource : ref.source = name
  · rw [read, read, hsource, List.lookup_cons_self, List.lookup_cons_self]
  · have hother : (ref.source == name) = false := beq_eq_false_iff_ne.2 hsource
    have hread := h hsource
    rwa [read, read, List.lookup_cons, List.lookup_cons, hother]

theorem Condition.truth_of_agree {c : Condition} (h : env.Agree env' c.refs) : c.truth env = c.truth env' := by
  cases c with
  | sameAs l r =>
    have hl : env.read l = env'.read l := h l (by simp [refs])
    have hr : env.read r = env'.read r := h r (by simp [refs])
    rw [truth, truth, hl, hr]
  | equals r v =>
    have hr : env.read r = env'.read r := h r (List.mem_singleton_self r)
    cases v <;> simp only [truth, hr]
  | among r vs n => rw [truth, truth, h r (List.mem_singleton_self r)]

namespace Members

variable {m : Members}

/-- **The members of a list depend on their parent and on what the list reads outside of their table.** -/
theorem values_of_agree (hparent : env.read m.parent = env'.read m.parent) (houtside : env.Agree env' m.outside) :
    m.values store env = m.values store env' := by
  -- In the rows of the list and of its parent together all conditions read the same.
  have hread : ∀ row : Row, ∀ c ∈ Condition.sameAs m.child m.parent :: m.criteria,
      Env.Agree ((m.table.name, row) :: env) ((m.table.name, row) :: env') c.refs := by
    intro row c hc ref href
    refine Env.read_cons_congr fun hsource => ?_
    rcases List.mem_cons.1 hc with rfl | hc
    · rcases List.mem_cons.1 href with rfl | href
      · exact houtside _ (List.mem_filter.2 ⟨by simp, bne_iff_ne.2 hsource⟩)
      · rw [List.mem_singleton.1 href]
        exact hparent
    · have hcriterion : ref ∈ m.criteria.flatMap Condition.refs := List.mem_flatMap.2 ⟨c, hc, href⟩
      exact houtside ref (List.mem_filter.2 ⟨by simp only [List.mem_cons, hcriterion, or_true], bne_iff_ne.2 hsource⟩)
  have hhold : ∀ row : Row, Condition.allHold ((m.table.name, row) :: env) (.sameAs m.child m.parent :: m.criteria) =
      Condition.allHold ((m.table.name, row) :: env') (.sameAs m.child m.parent :: m.criteria) := by
    intro row
    rw [Bool.eq_iff_iff, Condition.allHold, Condition.allHold, List.all_eq_true, List.all_eq_true]
    exact forall₂_congr fun c hc => by rw [Condition.truth_of_agree (hread row c hc)]
  rw [values, values, List.filter_congr fun row _ => hhold row]

end Members

/-! ## Scalars and clauses -/

theorem Scalar.value_of_agree {s : Scalar} (h : env.Agree env' s.refs)
    (hlists : env.Agree env' (s.lists.flatMap Members.outside)) (size : Nat) :
    s.value store env size = s.value store env' size := by
  cases s with
  | column r => exact h r (List.mem_singleton_self r)
  | nullTest r n => rw [value, value, h r (List.mem_singleton_self r)]
  | rowCount => rfl
  | joined m =>
    have hvalues : m.values store env = m.values store env' :=
      Members.values_of_agree (h _ (List.mem_singleton_self _)) (hlists.mono (by simp [lists]))
    rw [value, value, Members.joinedValue, Members.joinedValue, hvalues]

theorem Term.value_of_agree {t : Term} (h : env.Agree env' t.refs)
    (hlists : env.Agree env' (t.lists.flatMap Members.outside)) : t.value store env = t.value store env' := by
  cases t with
  | plain s | lower s | asText s | orEmpty s =>
    have hs : s.value store env 1 = s.value store env' 1 := Scalar.value_of_agree h hlists 1
    simp only [value, hs]

namespace Clause

mutual

/-- **The truth of a clause depends on the columns that it refers to.** -/
theorem truth_of_agree : (c : Clause) → env.Agree env' c.refs → env.Agree env' (c.lists.flatMap Members.outside) →
    c.truth store env = c.truth store env'
  | const _, _, _ | decided _, _, _ => rfl
  | nullTest s _, h, hlists => by rw [truth, truth, Scalar.value_of_agree h hlists]
  | compare _ t _, h, hlists | among t _ _, h, hlists | like t _ _ _, h, hlists | regexp t _ _, h, hlists => by
    simp only [truth, Term.value_of_agree (t := t) h hlists]
  | anyMember m, h, hlists | memberCount m _ _, h, hlists => by
    have hvalues : m.values store env = m.values store env' :=
      Members.values_of_agree (h _ (List.mem_singleton_self _)) (hlists.mono (by simp [lists]))
    simp only [truth, Members.different, hvalues]
  | not c, h, hlists => by rw [truth, truth, truth_of_agree c h hlists]
  | and cs, h, hlists => by
    rw [truth, truth]
    exact (truthAll_truthAny_of_agree cs h hlists).1
  | or cs, h, hlists => by
    rw [truth, truth]
    exact (truthAll_truthAny_of_agree cs h hlists).2

theorem truthAll_truthAny_of_agree : (cs : List Clause) → env.Agree env' (refsOfAll cs) →
    env.Agree env' ((listsOfAll cs).flatMap Members.outside) →
    truthAll store env cs = truthAll store env' cs ∧ truthAny store env cs = truthAny store env' cs
  | [], _, _ => ⟨rfl, rfl⟩
  | c :: cs, h, hlists => by
    rw [listsOfAll, List.flatMap_append] at hlists
    have hc := truth_of_agree c (h.mono (List.subset_append_left _ _)) (hlists.mono (List.subset_append_left _ _))
    obtain ⟨hall, hany⟩ := truthAll_truthAny_of_agree cs (h.mono (List.subset_append_right _ _))
      (hlists.mono (List.subset_append_right _ _))
    constructor
    · rw [truthAll, truthAll, hc, hall]
    · rw [truthAny, truthAny, hc, hany]

end

theorem holds_of_agree {c : Clause} (h : env.Agree env' c.refs)
    (hlists : env.Agree env' (c.lists.flatMap Members.outside)) : c.holds store env = c.holds store env' := by
  rw [holds, holds, truth_of_agree c h hlists]

end Clause

end TableQuery.Sql
