import TableQuery.Sql.Reach

/-!
# What holds of the parts of a clause

`Clause.conj` and `Clause.disj` leave out some of their clauses, or make a constant of them. What holds of constants
and of the clauses, and passes on to conjunctions or disjunctions, holds of what they make
(`Clause.conj_induct`, `Clause.disj_induct`). What passes on from conjunctions to their parts holds of all conjuncts
of a clause (`Clause.conjuncts_induct`).
-/

set_option autoImplicit false

namespace TableQuery.Sql.Clause

theorem mem_simplified {neutral : Bool} {cs : List Clause} {c : Clause} (h : c ∈ simplified neutral cs) :
    c ∈ cs ∨ ∃ b, c = decided b := by
  unfold simplified at h
  split at h
  · exact Or.inr ⟨_, List.mem_singleton.1 h⟩
  · split at h
    · exact Or.inr ⟨_, List.mem_singleton.1 h⟩
    · exact Or.inl (List.mem_filter.1 h).1

variable {P : Clause → Prop}

theorem forall_mem_simplified (decided : ∀ b, P (.decided b)) {neutral : Bool} {cs : List Clause}
    (h : ∀ c ∈ cs, P c) : ∀ c ∈ simplified neutral cs, P c := by
  intro c hc
  rcases mem_simplified hc with hc | ⟨b, rfl⟩
  · exact h c hc
  · exact decided b

theorem conj_induct (decided : ∀ b, P (.decided b)) (and : ∀ cs, (∀ c ∈ cs, P c) → P (.and cs)) {cs : List Clause}
    (h : ∀ c ∈ cs, P c) : P (conj cs) := by
  have hrest : ∀ c ∈ simplified true cs, P c := forall_mem_simplified decided h
  unfold conj
  split
  next c hsingle => exact hrest c (hsingle ▸ List.mem_singleton_self c)
  next => exact and _ hrest

theorem disj_induct (decided : ∀ b, P (.decided b)) (or : ∀ cs, (∀ c ∈ cs, P c) → P (.or cs)) {cs : List Clause}
    (h : ∀ c ∈ cs, P c) : P (disj cs) := by
  have hrest : ∀ c ∈ simplified false cs, P c := forall_mem_simplified decided h
  unfold disj
  split
  next c hsingle => exact hrest c (hsingle ▸ List.mem_singleton_self c)
  next => exact or _ hrest

mutual

/-- What holds of a clause holds of its conjuncts. -/
theorem conjuncts_induct (and : ∀ cs, P (.and cs) → ∀ c ∈ cs, P c) : (c : Clause) → P c → ∀ d ∈ c.conjuncts, P d
  | .and cs, h => conjunctsOfAll_induct and cs (and cs h)
  | const _, h | decided _, h | nullTest _ _, h | compare _ _ _, h | among _ _ _, h | like _ _ _ _, h
  | regexp _ _ _, h | anyMember _, h | memberCount _ _ _, h | not _, h | or _, h => by
    intro d hd
    rw [conjuncts, List.mem_singleton] at hd
    · rwa [hd]
    · nofun

theorem conjunctsOfAll_induct (and : ∀ cs, P (.and cs) → ∀ c ∈ cs, P c) : (cs : List Clause) → (∀ c ∈ cs, P c) →
    ∀ d ∈ conjunctsOfAll cs, P d
  | [], _ => nofun
  | c :: cs, h => by
    intro d hd
    rcases List.mem_append.1 hd with hd | hd
    · exact conjuncts_induct and c (h c List.mem_cons_self) d hd
    · exact conjunctsOfAll_induct and cs (fun c hc => h c (List.mem_cons_of_mem _ hc)) d hd

end

end TableQuery.Sql.Clause
