import TableQuery.Proofs.Filter.Acceptance
import TableQuery.Proofs.Filter.Quantifier
import TableQuery.Proofs.Sql.Truth

/-!
# A filter and its opposite

In three-valued logic the negation of a clause need not hold where the clause does not. For the clauses of
accepted filters it does: a row in which the columns that may not be missing are there satisfies either the
clause of a filter or that of its opposite, and not both (`FilterNode.holds_clause`). What an operation asks of
a row is given by two-valued rules (`FilterNode.holds_op`).
-/

set_option autoImplicit false

namespace TableQuery

open Sql (Clause Term Scalar Members Source Store Env Value)

section Rows

variable (store : Store) (env : Env)

/-! ## Terms -/

theorem Sql.Value.toText?_eq_none {v : Value} : v.toText? = none ↔ v = .null := by
  cases v <;> simp [Value.toText?]

theorem Sql.Value.asText_eq_null {v : Value} : v.asText = .null ↔ v = .null := by
  cases v <;> simp [Value.asText, Value.toText?]

theorem ColumnType.value_equalityTerm_eq_null (t : ColumnType) (s : Scalar) :
    (t.equalityTerm s).value store env = .null ↔ s.value store env 1 = .null := by
  unfold ColumnType.equalityTerm
  split
  · rw [Term.value]
    split
    next v hv =>
      rw [← Sql.Value.toText?_eq_none (v := s.value store env 1), hv]
      simp
    next hv => simp [Sql.Value.toText?_eq_none.1 hv]
  · rfl

theorem ColumnType.value_textTerm_eq_null (t : ColumnType) (s : Scalar) :
    (t.textTerm s).value store env = .null ↔ s.value store env 1 = .null := by
  unfold ColumnType.textTerm
  split
  · exact Sql.Value.asText_eq_null
  · rfl

theorem Sql.Term.toText?_orEmpty (s : Scalar) : (((Term.orEmpty s).value store env).toText?).isSome := by
  rw [Term.value]
  split
  · rfl
  next hv => rwa [Option.isSome_iff_ne_none, ne_eq, Sql.Value.toText?_eq_none]

/-! ## Comparisons -/

theorem Sql.compareTruth_null (c : Sql.Comparison) (b : Value) : Sql.compareTruth c .null b = none := by
  cases b <;> rfl

theorem Sql.isSome_compareTruth (c : Sql.Comparison) {a b : Value} (ha : a ≠ .null) (hb : b ≠ .null) :
    (Sql.compareTruth c a b).isSome := by
  cases a <;> cases b <;> simp_all [Sql.compareTruth, Value.compare?]

theorem Sql.amongTruth_null (vs : List Operand) (n : Bool) : Sql.amongTruth .null vs n = none := rfl

theorem Sql.isSome_amongTruth {v : Value} {vs : List Operand} (n : Bool) (hv : v ≠ .null)
    (hvs : ∀ o ∈ vs, Value.ofOperand o ≠ .null) : (Sql.amongTruth v vs n).isSome := by
  unfold Sql.amongTruth
  split
  · exact absurd rfl hv
  · split
    · rfl
    · split
      next h =>
        obtain ⟨o, ho, hnull⟩ := List.any_eq_true.1 h
        exact absurd (beq_iff_eq.1 hnull) (hvs o ho)
      · rfl

theorem ColumnType.equalityOperand_ne_null {t : ColumnType} {v : Operand} (h : Value.ofOperand v ≠ .null) :
    Value.ofOperand (t.equalityOperand v) ≠ .null := by
  unfold ColumnType.equalityOperand
  split
  · simp [Value.ofOperand]
  · exact h

end Rows

/-! ## Tests of a column -/

namespace Operator

/-- The pattern of a regular expression can be read, if the argument is for one. -/
def HasPattern (o : Operator) : Argument → Prop
  | .one v => o = .regexp → (Sql.regexOf? v).isSome
  | _ => True

instance (o : Operator) : (a : Argument) → Decidable (o.HasPattern a)
  | .one v => inferInstanceAs (Decidable (o = .regexp → (Sql.regexOf? v).isSome))
  | .nothing | .many _ => .isTrue trivial

theorem text_of_isTextual {t : ColumnType} {o : Operator} {v : Operand} (ho : o.isTextual = true)
    (ha : (Argument.one v).Fits t o) : ∃ s, v = .text s := by
  obtain ⟨-, -, r, hr, hv⟩ := ha
  simp only [ColumnType.rule?, ho, ↓reduceIte, Option.some.injEq] at hr
  subst hr
  cases v <;> simp_all [Rule.Yields]

section Rows

variable (store : Store) (env : Env) {t : ColumnType} {o : Operator} {a : Argument}

theorem isSome_truth_membersClause (m : Members) : ((o.membersClause m a).truth store env).isSome := by
  cases a with
  | nothing | one v => rfl
  | many vs =>
    cases o <;> try rfl
    all_goals
      show ((Clause.conj [onlyMembers m vs, allMembers m vs]).truth store env).isSome
      rw [Clause.truth_conj]
      refine Clause.isSome_truthAll store env fun c hc => ?_
      simp only [List.mem_cons, List.not_mem_nil, or_false] at hc
      rcases hc with rfl | rfl <;> rfl

/-- What a textual operator asks of a value that is there is known, and of a missing one it is not. -/
theorem isSome_truth_textClause {v : Operand} (s : Scalar) (ho : o.isTextual = true)
    (ha : (Argument.one v).Fits t o)
    (hp : o.HasPattern (.one v)) :
    ((o.textClause t s v).truth store env).isSome ↔ s.value store env 1 ≠ .null := by
  obtain ⟨p, rfl⟩ := text_of_isTextual ho ha
  rw [ne_eq, ← t.value_textTerm_eq_null store env s, ← Sql.Value.toText?_eq_none]
  unfold textClause
  cases o <;> simp only [pattern?, isTextual, Bool.false_eq_true] at ho ⊢
  case regexp =>
    obtain ⟨r, hr⟩ := Option.isSome_iff_exists.1 (hp rfl)
    rw [Clause.truth, hr]
    cases ((t.textTerm s).value store env).toText? <;> simp
  all_goals
    rw [Clause.truth, Value.ofOperand, Value.toText?]
    cases ((t.textTerm s).value store env).toText? <;> simp

theorem isSome_truth_valueClause (s : Scalar) (ha : a.Fits t o) (hp : o.HasPattern a) (ho : o ≠ .null) :
    ((o.valueClause t s a).truth store env).isSome ↔ s.value store env 1 ≠ .null := by
  cases a with
  | nothing => exact absurd ha ho
  | many vs =>
    obtain ⟨-, -, -, r, -, hvs⟩ := ha
    rw [valueClause, Clause.truth, ne_eq, ← t.value_equalityTerm_eq_null store env s]
    constructor
    · intro h hnull
      rw [hnull, Sql.amongTruth_null] at h
      cases h
    · refine fun h => Sql.isSome_amongTruth false h fun w hw => ?_
      obtain ⟨v, hv, rfl⟩ := List.mem_map.1 hw
      exact ColumnType.equalityOperand_ne_null (hvs v hv).ne_null
  | one v =>
    have hv : Value.ofOperand v ≠ .null := by
      obtain ⟨-, -, r, -, hr⟩ := ha
      exact hr.ne_null
    have hv' : v ≠ .null := by
      rintro rfl
      exact hv rfl
    rw [valueClause]
    split
    next htext => exact isSome_truth_textClause store env s htext ha hp
    · rw [if_pos (by simp [hv'])]
      split
      · rw [Clause.truth]
        constructor
        · intro h hnull
          rw [Term.value, hnull, Sql.compareTruth_null] at h
          cases h
        · exact fun h => Sql.isSome_compareTruth _ h hv
      · rw [Clause.truth, ne_eq, ← t.value_equalityTerm_eq_null store env s]
        constructor
        · intro h hnull
          rw [hnull, Sql.compareTruth_null] at h
          cases h
        · exact fun h => Sql.isSome_compareTruth _ h (ColumnType.equalityOperand_ne_null hv)

/-- **Exactly one of what an operator asks and its opposite holds**, if a value that may not be missing is
there. -/
theorem holds_inverseClause (source : Source) (ha : a.Fits t o) (hp : o.HasPattern a)
    (hv : t.isNullable = false → source.scalar.value store env 1 ≠ .null) :
    (o.inverseClause t source a).holds store env = !(o.clause t source a).holds store env := by
  cases source with
  | members m => exact Clause.holds_negate store env (isSome_truth_membersClause store env m)
  | value s =>
    simp only [inverseClause, clause]
    by_cases ho : o = .null
    · subst ho
      have hnothing : a = .nothing := by
        cases a with
        | nothing => rfl
        | one v | many vs => exact absurd rfl ha.1
      subst hnothing
      rw [if_neg (by simp)]
      exact Clause.holds_negate store env rfl
    have hknown := isSome_truth_valueClause store env s ha hp ho
    by_cases hnull : s.value store env 1 = .null
    · -- The clause is unknown and so is its negation: the test for a missing value decides.
      have hunknown : (o.valueClause t s a).truth store env = none := by
        rw [← Option.not_isSome_iff_eq_none, hknown]
        exact not_not_intro hnull
      have hnullable : t.isNullable = true := by
        rw [← Bool.not_eq_false]
        exact fun h => hv h hnull
      rw [if_pos (by simp [hnullable, ho]), Clause.holds_disj]
      simp [Clause.holds, hunknown, Clause.truth_negate, Sql.Truth.not, Clause.truth, hnull]
    · have hneg := Clause.holds_negate store env (hknown.2 hnull)
      split
      · rw [Clause.holds_disj, ← hneg]
        simp [Clause.holds, Clause.truth, hnull]
      · exact hneg

end Rows

end Operator

/-! ## Filters -/

/-- A test of a column by a filter. -/
structure ColumnTest where
  column : ColumnDef
  operator : Operator
  argument : Argument
  deriving Repr

namespace FilterNode

mutual

/-- The tests of columns that a filter makes. -/
def tests : FilterNode → List ColumnTest
  | op _ fs _ => testsOfAll fs
  | column c o a _ => [⟨c, o, a⟩]
  | _ => []

/-- The tests of columns that filters make. -/
def testsOfAll : List FilterNode → List ColumnTest
  | [] => []
  | f :: fs => tests f ++ testsOfAll fs

end

/-- Every regular expression in a filter can be read. -/
def PatternsReadable (f : FilterNode) : Prop :=
  ∀ t ∈ f.tests, t.operator.HasPattern t.argument

instance (f : FilterNode) : Decidable f.PatternsReadable :=
  inferInstanceAs (Decidable (∀ t ∈ f.tests, t.operator.HasPattern t.argument))

/-- The columns that a filter tests are there in a row, except for those that may be missing. -/
def ColumnsThere (store : Store) (env : Env) (f : FilterNode) : Prop :=
  ∀ t ∈ f.tests, t.column.type.isNullable = false → t.column.scalar.value store env 1 ≠ .null

theorem mem_testsOfAll {fs : List FilterNode} {t : ColumnTest} : t ∈ testsOfAll fs ↔ ∃ f ∈ fs, t ∈ f.tests := by
  induction fs with
  | nil => simp [testsOfAll]
  | cons f fs ih => simp [testsOfAll, ih]

theorem mem_columnsOfAll {fs : List FilterNode} {c : ColumnDef} :
    c ∈ columnsOfAll fs ↔ ∃ f ∈ fs, c ∈ f.columns := by
  induction fs with
  | nil => simp [columnsOfAll]
  | cons f fs ih => simp [columnsOfAll, ih]

theorem mem_joinsOfAll {fs : List FilterNode} {n : String} : n ∈ joinsOfAll fs ↔ ∃ f ∈ fs, n ∈ f.joins := by
  induction fs with
  | nil => simp [joinsOfAll]
  | cons f fs ih => simp [joinsOfAll, ih]

theorem tests_op {all inverse : Bool} {fs : List FilterNode} {t : ColumnTest} :
    t ∈ (op all fs inverse).tests ↔ ∃ f ∈ fs, t ∈ f.tests := by
  rw [tests, mem_testsOfAll]

theorem Accepted.mem_columns {config : EntityConfig} {f : FilterNode} (h : Accepted config f) :
    ∀ c ∈ f.columns, c ∈ config.columns := by
  induction h with
  | const value => simp [columns]
  | op all inverse _ _ ih =>
    intro c hc
    rw [columns, mem_columnsOfAll] at hc
    obtain ⟨f, hf, hc⟩ := hc
    exact ih f hf c hc
  | column inverse hmem _ _ =>
    intro c hc
    rw [columns, List.mem_singleton] at hc
    rwa [hc]
  | custom params inverse _ => simp [columns]
  | global words inverse =>
    intro c hc
    exact (List.mem_filter.1 (List.mem_filter.1 hc).1).1

theorem Accepted.column_mem_columns {config : EntityConfig} {f : FilterNode} (h : Accepted config f) :
    ∀ t ∈ f.tests, t.column ∈ f.columns := by
  induction h with
  | const value | custom params inverse _ | global words inverse => simp [tests]
  | op all inverse _ _ ih =>
    intro t ht
    rw [tests_op] at ht
    obtain ⟨f, hf, ht⟩ := ht
    rw [columns, mem_columnsOfAll]
    exact ⟨f, hf, ih f hf t ht⟩
  | column inverse _ _ _ =>
    intro t ht
    rw [tests, List.mem_singleton] at ht
    rw [ht, columns]
    exact List.mem_cons_self

theorem PatternsReadable.of_mem {all inverse : Bool} {fs : List FilterNode}
    (h : (op all fs inverse).PatternsReadable)
    {f : FilterNode} (hf : f ∈ fs) : f.PatternsReadable :=
  fun t ht => h t (tests_op.2 ⟨f, hf, ht⟩)

theorem clauses_eq_map (invert : Bool) (fs : List FilterNode) : clauses invert fs = fs.map (clause invert) := by
  induction fs with
  | nil => rfl
  | cons f fs ih => rw [clauses, ih, List.map_cons]

section Rows

variable (store : Store) (env : Env)

theorem ColumnsThere.of_mem {store : Store} {env : Env} {all inverse : Bool} {fs : List FilterNode}
    (h : (op all fs inverse).ColumnsThere store env) {f : FilterNode} (hf : f ∈ fs) : f.ColumnsThere store env :=
  fun t ht => h t (tests_op.2 ⟨f, hf, ht⟩)

theorem isSome_truth_wordClause (word : String) (c : ColumnDef) :
    ((wordClause word c).truth store env).isSome := by
  obtain ⟨s, hs⟩ := Option.isSome_iff_exists.1 (Sql.Term.toText?_orEmpty store env c.scalar)
  rw [wordClause, Clause.truth, hs]
  rfl

theorem holds_inverseSearchClause (words : List String) (cs : List ColumnDef) :
    (inverseSearchClause words cs).holds store env = !(searchClause words cs).holds store env := by
  unfold inverseSearchClause searchClause
  split
  · rfl
  · split
    · rfl
    · simp only [Clause.holds_conj, Clause.holds_disj, List.any_map, List.all_map, Function.comp_def,
        Clause.holds_negate store env (isSome_truth_wordClause store env _ _), List.not_all_eq_any_not,
        List.not_any_eq_all_not]

/-- What an operation asks of a row. -/
theorem holds_op (invert all inverse : Bool) (fs : List FilterNode) :
    ((op all fs inverse).clause invert).holds store env =
      quantify (all != (invert != inverse)) (fun f => (f.clause (invert != inverse)).holds store env) fs := by
  rw [clause, clauses_eq_map, quantify]
  split
  · rw [Clause.holds_conj, List.all_map]
    rfl
  · rw [Clause.holds_disj, List.any_map]
    rfl

/-- What an operation asks of a row where the opposites of its parts are opposite. -/
theorem holds_op_of_parts {all : Bool} (inverse : Bool) {fs : List FilterNode}
    (h : ∀ f ∈ fs, ∀ invert : Bool,
      (f.clause invert).holds store env = ((f.clause false).holds store env != invert))
    (invert : Bool) : ((op all fs inverse).clause invert).holds store env =
      (quantify all (fun f => (f.clause false).holds store env) fs != (invert != inverse)) := by
  rw [holds_op, ← quantify_bne]
  exact quantify_congr fun f hf => h f hf _

/-- **A row satisfies the opposite of a filter iff it does not satisfy the filter.** -/
theorem holds_clause {config : EntityConfig} {f : FilterNode} (h : Accepted config f)
    (hsearch : ∀ d ∈ config.customFilters, d.isSearch = true) (hp : f.PatternsReadable)
    (hc : f.ColumnsThere store env) :
    ∀ invert : Bool, (f.clause invert).holds store env = ((f.clause false).holds store env != invert) := by
  induction h with
  | const value => intro invert; cases value <;> cases invert <;> rfl
  | @op all fs inverse _ _ ih =>
    -- Both sides are the operation on the parts as they are, inverted as often.
    have hop := @holds_op_of_parts store env all inverse fs fun f hf => ih f hf (hp.of_mem hf) (hc.of_mem hf)
    intro invert
    rw [hop, hop]
    cases invert <;> simp
  | @column c o a inverse hmem hacc ha =>
    have hflip := Operator.holds_inverseClause store env c.source ha (hp ⟨c, o, a⟩ (by simp [tests]))
      (hc ⟨c, o, a⟩ (by simp [tests]))
    intro invert
    cases invert <;> cases inverse <;> simp [clause, hflip]
  | @custom d params inverse hmem =>
    have htruth : ((d.compile params).truth store env).isSome := by
      rw [CustomFilterDef.compile_of_isSearch (hsearch d hmem)]
      rfl
    have hflip := Clause.holds_negate store env htruth
    intro invert
    cases invert <;> cases inverse <;> simp [clause, hflip]
  | global words inverse =>
    have hflip := holds_inverseSearchClause store env words (config.searchable.filter (·.isData))
    intro invert
    cases invert <;> cases inverse <;> simp [clause, hflip]

end Rows

end FilterNode

end TableQuery
