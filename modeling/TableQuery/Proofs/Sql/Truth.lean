import TableQuery.Sql.Meaning

/-!
# Laws of three-valued clauses

Negation of a clause is negation of its truth value (`Clause.truth_negate`), unknown values included. A
conjunction holds iff all its parts do and a disjunction iff some part does (`Clause.holds_conj`,
`Clause.holds_disj`), whatever constants were dropped when they were built. Only where a clause has a truth
value at all does its negation hold iff it does not (`Clause.holds_negate`).
-/

set_option autoImplicit false

namespace TableQuery.Sql

/-! ## Truth values -/

namespace Truth

theorem some_ne_not (b n : Bool) : some (b != !n) = not (some (b != n)) := by
  cases b <;> cases n <;> rfl

@[simp] theorem and_true (t : Truth) : t.and (some true) = t := by
  rcases t with _ | _ | _ <;> rfl

@[simp] theorem and_false (t : Truth) : t.and (some false) = some false := by
  rcases t with _ | _ | _ <;> rfl

@[simp] theorem true_and (t : Truth) : and (some true) t = t := by
  rcases t with _ | _ | _ <;> rfl

@[simp] theorem or_false (t : Truth) : t.or (some false) = t := by
  rcases t with _ | _ | _ <;> rfl

@[simp] theorem false_or (t : Truth) : or (some false) t = t := by
  rcases t with _ | _ | _ <;> rfl

theorem and_eq_true {s t : Truth} : s.and t = some true ↔ s = some true ∧ t = some true := by
  rcases s with _ | _ | _ <;> rcases t with _ | _ | _ <;> decide

theorem or_eq_true {s t : Truth} : s.or t = some true ↔ s = some true ∨ t = some true := by
  rcases s with _ | _ | _ <;> rcases t with _ | _ | _ <;> decide

theorem isSome_and {s t : Truth} (hs : s.isSome) (ht : t.isSome) : (s.and t).isSome := by
  rcases s with _ | _ | _ <;> rcases t with _ | _ | _ <;> simp_all [and]

end Truth

/-! ## Negation -/

theorem compareTruth_negate (c : Comparison) (a b : Value) :
    compareTruth c.negate a b = (compareTruth c a b).not := by
  simp only [compareTruth, Truth.not, Option.map_map]
  exact congrArg (fun f => Option.map f (a.compare? b)) (funext fun o => c.holds_negate o)

theorem amongTruth_not (v : Value) (vs : List Operand) (n : Bool) :
    amongTruth v vs (!n) = (amongTruth v vs n).not := by
  unfold amongTruth
  split
  · rfl
  · split
    · rfl
    · split <;> rfl

namespace Clause

section Rows

variable (store : Store) (env : Env)

/-- **The truth value of the opposite clause is the opposite truth value.** -/
theorem truth_negate (c : Clause) : c.negate.truth store env = (c.truth store env).not := by
  cases c with
  | const b | decided b => rfl
  | nullTest s n | memberCount m k n => exact Truth.some_ne_not _ _
  | compare c t v => exact compareTruth_negate _ _ _
  | among t vs n => exact amongTruth_not _ _ _
  | like t p e n =>
    simp only [negate, truth]
    split
    · exact Truth.some_ne_not _ _
    · rfl
  | regexp t p n =>
    simp only [negate, truth]
    split
    · exact Truth.some_ne_not _ _
    · rfl
  | anyMember m => rfl
  | not c => simp only [negate, truth]
  | and cs => simp only [negate, truth]
  | or cs => simp only [negate, truth]

theorem holds_negate {c : Clause} (h : (c.truth store env).isSome) :
    c.negate.holds store env = !c.holds store env := by
  obtain ⟨b, hb⟩ := Option.isSome_iff_exists.1 h
  cases b <;> simp [holds, truth_negate, hb, Truth.not]

/-! ## Conjunctions and disjunctions -/

theorem truthAll_eq_true {cs : List Clause} :
    truthAll store env cs = some true ↔ ∀ c ∈ cs, c.truth store env = some true := by
  induction cs with
  | nil => simp [truthAll]
  | cons c cs ih => simp [truthAll, Truth.and_eq_true, ih]

theorem truthAny_eq_true {cs : List Clause} :
    truthAny store env cs = some true ↔ ∃ c ∈ cs, c.truth store env = some true := by
  induction cs with
  | nil => simp [truthAny]
  | cons c cs ih => simp [truthAny, Truth.or_eq_true, ih]

theorem isSome_truthAll {cs : List Clause} (h : ∀ c ∈ cs, (c.truth store env).isSome) :
    (truthAll store env cs).isSome := by
  induction cs with
  | nil => rfl
  | cons c cs ih => exact Truth.isSome_and (h c (by simp)) (ih fun d hd => h d (by simp [hd]))

theorem isConst_eq_true {value : Bool} {c : Clause} : isConst value c = true ↔ c = const value := by
  cases c <;> simp [isConst]

theorem truthAll_of_mem_false {cs : List Clause} (h : const false ∈ cs) : truthAll store env cs = some false := by
  induction cs with
  | nil => cases h
  | cons c cs ih =>
    rcases List.mem_cons.1 h with rfl | h
    · rfl
    · rw [truthAll, ih h, Truth.and_false]

theorem truthAny_of_mem_true {cs : List Clause} (h : const true ∈ cs) : truthAny store env cs = some true :=
  (truthAny_eq_true store env).2 ⟨_, h, rfl⟩

theorem truthAll_filter (cs : List Clause) :
    truthAll store env (cs.filter (!isConst true ·)) = truthAll store env cs := by
  induction cs with
  | nil => rfl
  | cons c cs ih =>
    by_cases h : isConst true c = true
    · rw [List.filter_cons_of_neg (by simp [h]), ih, isConst_eq_true.1 h, truthAll, truth, Truth.true_and]
    · rw [List.filter_cons_of_pos (by simp [h]), truthAll, truthAll, ih]

theorem truthAny_filter (cs : List Clause) :
    truthAny store env (cs.filter (!isConst false ·)) = truthAny store env cs := by
  induction cs with
  | nil => rfl
  | cons c cs ih =>
    by_cases h : isConst false c = true
    · rw [List.filter_cons_of_neg (by simp [h]), ih, isConst_eq_true.1 h, truthAny, truth, Truth.false_or]
    · rw [List.filter_cons_of_pos (by simp [h]), truthAny, truthAny, ih]

theorem truthAll_simplified (cs : List Clause) :
    truthAll store env (simplified true cs) = truthAll store env cs := by
  unfold simplified
  split
  · next h =>
    obtain ⟨c, hc, hconst⟩ := List.any_eq_true.1 h
    have hmem : const false ∈ cs := isConst_eq_true.1 hconst ▸ hc
    rw [truthAll_of_mem_false store env hmem]
    rfl
  · rw [← truthAll_filter store env cs]
    split
    · next h => rw [h]; rfl
    · rfl

theorem truthAny_simplified (cs : List Clause) :
    truthAny store env (simplified false cs) = truthAny store env cs := by
  unfold simplified
  split
  · next h =>
    obtain ⟨c, hc, hconst⟩ := List.any_eq_true.1 h
    have hmem : const true ∈ cs := isConst_eq_true.1 hconst ▸ hc
    rw [truthAny_of_mem_true store env hmem]
    rfl
  · rw [← truthAny_filter store env cs]
    split
    · next h => rw [h]; rfl
    · rfl

theorem truth_conj (cs : List Clause) : (conj cs).truth store env = truthAll store env cs := by
  rw [← truthAll_simplified, conj]
  split
  · next h => rw [h, truthAll, truthAll, Truth.and_true]
  · rw [truth]

theorem truth_disj (cs : List Clause) : (disj cs).truth store env = truthAny store env cs := by
  rw [← truthAny_simplified, disj]
  split
  · next h => rw [h, truthAny, truthAny, Truth.or_false]
  · rw [truth]

/-- **A conjunction holds iff all its parts do.** -/
theorem holds_conj (cs : List Clause) : (conj cs).holds store env = cs.all (·.holds store env) := by
  rw [Bool.eq_iff_iff, holds, truth_conj, beq_iff_eq, truthAll_eq_true, List.all_eq_true]
  simp only [holds, beq_iff_eq]

/-- **A disjunction holds iff some part does.** -/
theorem holds_disj (cs : List Clause) : (disj cs).holds store env = cs.any (·.holds store env) := by
  rw [Bool.eq_iff_iff, holds, truth_disj, beq_iff_eq, truthAny_eq_true, List.any_eq_true]
  simp only [holds, beq_iff_eq]

end Rows

end Clause

end TableQuery.Sql
