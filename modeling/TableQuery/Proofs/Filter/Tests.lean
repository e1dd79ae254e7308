import TableQuery.Proofs.Filter.Inversion
import TableQuery.Proofs.Sql.Members

/-!
# What tests ask of sound cells

A cell is sound if it respects the declared nullability and holds no untrimmed text (`ColumnDef.CellSound`). Of
such cells it is told what the tests ask that reduction rewrites: to be equal to an operand, or to some of
several (`Operator.holds_oneOf`), and for lists to have members among texts (`Operator.holds_hasAny` and the
others), of which untrimmed ones do not count.
-/

set_option autoImplicit false

namespace TableQuery

open Sql (Clause Scalar Members Source Store Env Value textOperands)

def Argument.operands : Argument → List Operand
  | .nothing => []
  | .one v => [v]
  | .many vs => vs

namespace ColumnTest

/-- What a test asks of a row. -/
def clause (t : ColumnTest) : Clause :=
  t.operator.clause t.column.type t.column.source t.argument

/-- A test with operands that the reduction of filters and their clauses take alike: the operand is no empty text,
there is no repetition where members are counted, and no pattern that cannot be read. -/
def Plain (t : ColumnTest) : Prop :=
  t.operator.HasPattern t.argument ∧ t.argument ≠ .one (.text "") ∧
    (t.operator = .equal ∨ t.operator = .hasAll → t.argument.operands.Nodup)

instance (t : ColumnTest) : Decidable t.Plain :=
  inferInstanceAs (Decidable (_ ∧ _ ∧ _))

end ColumnTest

/-- No blank stands at the ends of a value, if it is a text. -/
def Sql.Value.Trimmed (v : Value) : Prop :=
  ∀ s, v = .text s → Text.isTrimmed s = true

instance : (v : Value) → Decidable v.Trimmed
  | .text s => decidable_of_iff (Text.isTrimmed s = true) ⟨fun h _ hs => Value.text.inj hs ▸ h, fun h => h s rfl⟩
  | .null | .int _ | .real _ => .isTrue nofun

section Rows

variable (store : Store) (env : Env)

/-- The cell of a column in a row respects the declared nullability, and the texts in it are trimmed. -/
def ColumnDef.CellSound (c : ColumnDef) : Prop :=
  match c.source with
  | .value s => (c.type.isNullable = false → s.value store env 1 ≠ .null) ∧ (s.value store env 1).Trimmed
  | .members m => ∀ v ∈ m.values store env, v ≠ .null ∧ v.Trimmed

instance (c : ColumnDef) : Decidable (c.CellSound store env) := by
  unfold ColumnDef.CellSound
  cases c.source <;> exact inferInstance

/-- The text of a cell that holds one value is not empty. -/
def ColumnDef.CellFilled (c : ColumnDef) : Prop :=
  match c.source with
  | .value s => (s.value store env 1).toText? ≠ some ""
  | .members _ => True

instance (c : ColumnDef) : Decidable (c.CellFilled store env) := by
  unfold ColumnDef.CellFilled
  cases c.source <;> exact inferInstance

/-- A row suits a test: the cell is sound, and it is no empty text if that is among the operands. -/
def ColumnTest.Suited (t : ColumnTest) : Prop :=
  t.column.CellSound store env ∧ (.text "" ∈ t.argument.operands → t.column.CellFilled store env)

instance (t : ColumnTest) : Decidable (t.Suited store env) :=
  inferInstanceAs (Decidable (_ ∧ _))

/-! ## Values -/

theorem Sql.compareTruth_eq_true {x y : Value} :
    Sql.compareTruth .eq x y = some true ↔ x ≠ .null ∧ x.compare y = .eq := by
  cases x with
  | null => simp [Sql.compareTruth, Value.compare?]
  | int n | real d | text s =>
    cases y with
    | null => simp [Sql.compareTruth, Value.compare?, Value.compare, Value.num?, Value.rank]; try decide
    | int n' | real d' | text s' => simp [Sql.compareTruth, Value.compare?, Sql.Comparison.holds]

theorem Sql.amongTruth_eq_true {x : Value} {vs : List Operand} :
    Sql.amongTruth x vs false = some true ↔ ∃ w ∈ vs, Sql.compareTruth .eq x (.ofOperand w) = some true := by
  simp only [Sql.compareTruth_eq_true]
  unfold Sql.amongTruth
  split
  · simp
  next hx =>
    split
    next h =>
      obtain ⟨w, hw, heq⟩ := List.any_eq_true.1 h
      exact iff_of_true rfl ⟨w, hw, hx, beq_iff_eq.1 heq⟩
    next h =>
      have hnone : ¬ ∃ w ∈ vs, x ≠ .null ∧ x.compare (.ofOperand w) = .eq := by
        rintro ⟨w, hw, -, heq⟩
        exact h (List.any_eq_true.2 ⟨w, hw, beq_iff_eq.2 heq⟩)
      rw [iff_false_intro hnone, iff_false]
      split <;> simp

/-- The value of a column counts as an operand. -/
def ColumnType.Equals (t : ColumnType) (s : Scalar) (w : Operand) : Prop :=
  Sql.compareTruth .eq ((t.equalityTerm s).value store env) (.ofOperand (t.equalityOperand w)) = some true

theorem ColumnType.not_equals_untrimmed {t : ColumnType} {s : Scalar} {x : String} (ht : t.kind ≠ .string)
    (hs : (s.value store env 1).Trimmed) (hx : Text.isTrimmed x = false) : ¬ t.Equals store env s (.text x) := by
  intro h
  have hoperand : t.equalityOperand (.text x) = .text x := by
    unfold ColumnType.equalityOperand
    split
    next hkind _ => exact absurd hkind ht
    next => rfl
  rw [Equals, hoperand, equalityTerm, if_neg ht, Sql.Term.value, Value.ofOperand, Sql.compareTruth_text] at h
  rw [hs x h] at hx
  cases hx

theorem ColumnType.not_equals_empty {t : ColumnType} {s : Scalar} (h : (s.value store env 1).toText? ≠ some "") :
    ¬ t.Equals store env s (.text "") := by
  intro heq
  have hoperand : t.equalityOperand (.text "") = .text "" := by
    unfold ColumnType.equalityOperand
    split
    next htext =>
      cases htext
      rfl
    next => rfl
  rw [Equals, hoperand, Value.ofOperand, Sql.compareTruth_text, equalityTerm] at heq
  split at heq
  next =>
    rw [Sql.Term.value] at heq
    split at heq
    next x hx =>
      have hfold : x.toList.map Char.toLower = [] := by
        rw [← String.toList_ofList (l := x.toList.map Char.toLower)]
        exact congrArg String.toList (Value.text.inj heq)
      have hnil : x = "" := by rw [← String.toList_eq_nil_iff, List.map_eq_nil_iff.1 hfold]
      exact h (hx.trans (congrArg some hnil))
    next => cases heq
  next =>
    rw [Sql.Term.value] at heq
    rw [heq] at h
    exact h rfl

namespace Operator

variable {t : ColumnType} {s : Scalar}

theorem holds_oneOf (vs : List Operand) :
    (Operator.oneOf.clause t (.value s) (.many vs)).holds store env = true ↔ ∃ w ∈ vs, t.Equals store env s w := by
  show (Clause.among (t.equalityTerm s) (vs.map t.equalityOperand) false).holds store env = true ↔ _
  rw [Clause.holds, Clause.truth, beq_iff_eq, Sql.amongTruth_eq_true]
  simp only [List.mem_map, exists_exists_and_eq_and]
  rfl

theorem holds_equal {w : Operand} (hw : w ≠ .null) :
    (Operator.equal.clause t (.value s) (.one w)).holds store env = true ↔ t.Equals store env s w := by
  have hclause : Operator.equal.clause t (.value s) (.one w) =
      .compare .eq (t.equalityTerm s) (t.equalityOperand w) := by
    simp [clause, valueClause, isTextual, comparison?, hw]
  rw [hclause, Clause.holds, Clause.truth, beq_iff_eq]
  rfl

/-- An order comparison is made on the value as it is. -/
theorem clause_comparison {o : Operator} {comparison : Sql.Comparison} {w : Operand}
    (ho : o.comparison? = some comparison) (hw : w ≠ .null) :
    o.clause t (.value s) (.one w) = .compare comparison (.plain s) w := by
  have htextual : o.isTextual = false := by
    cases o <;> first | rfl | cases ho
  simp [clause, valueClause, htextual, hw, ho]

/-! ## Members -/

variable {m : Members}

theorem holds_null :
    (Operator.null.clause t (.members m) .nothing).holds store env = true ↔ m.values store env = [] := by
  show (Clause.anyMember m).negate.holds store env = true ↔ _
  rw [Clause.holds_negate store env rfl, Bool.not_eq_true', ← Bool.not_eq_true, Members.holds_any]
  exact ⟨fun h => List.eq_nil_iff_forall_not_mem.2 fun v hv => h ⟨v, hv⟩,
    fun h ⟨v, hv⟩ => by rw [h] at hv; cases hv⟩

theorem holds_has (hm : m.value.source = m.table.name) (x : String) :
    (Operator.has.clause t (.members m) (.one (.text x))).holds store env = true ↔ .text x ∈ m.values store env :=
  Members.holds_someEqual store env hm x

theorem holds_hasAny (hm : m.value.source = m.table.name) (xs : List String) :
    (Operator.hasAny.clause t (.members m) (.many (textOperands xs))).holds store env = true ↔
      ∃ x ∈ xs, .text x ∈ m.values store env :=
  Members.holds_someAmong store env hm xs

theorem holds_hasOnly (hm : m.value.source = m.table.name) (xs : List String) :
    (Operator.hasOnly.clause t (.members m) (.many (textOperands xs))).holds store env = true ↔
      ∀ v ∈ m.values store env, v ≠ .null → ∃ x ∈ xs, v = .text x :=
  Members.holds_onlyAmong store env hm xs

theorem holds_hasAll_iff (hm : m.value.source = m.table.name) (xs : List String) :
    (Operator.hasAll.clause t (.members m) (.many (textOperands xs))).holds store env = true ↔
      xs.Nodup ∧ ∀ x ∈ xs, .text x ∈ m.values store env := by
  rw [← Members.holds_allAmong_iff store env hm xs]
  simp [clause, membersClause, allMembers, textOperands]

theorem holds_hasAll (hm : m.value.source = m.table.name) {xs : List String} (hxs : xs.Nodup) :
    (Operator.hasAll.clause t (.members m) (.many (textOperands xs))).holds store env = true ↔
      ∀ x ∈ xs, .text x ∈ m.values store env :=
  (holds_hasAll_iff store env hm xs).trans (and_iff_right hxs)

/-- To be equal to a list is to have only and all of its texts. -/
theorem holds_equalList_eq (xs : List String) :
    (Operator.equal.clause t (.members m) (.many (textOperands xs))).holds store env =
      ((Operator.hasOnly.clause t (.members m) (.many (textOperands xs))).holds store env &&
        (Operator.hasAll.clause t (.members m) (.many (textOperands xs))).holds store env) := by
  show (Clause.conj [onlyMembers m _, allMembers m _]).holds store env = _
  rw [Clause.holds_conj, List.all_cons, List.all_cons, List.all_nil, Bool.and_true]
  rfl

theorem holds_equalList (hm : m.value.source = m.table.name) {xs : List String} (hxs : xs.Nodup) :
    (Operator.equal.clause t (.members m) (.many (textOperands xs))).holds store env = true ↔
      (∀ v ∈ m.values store env, v ≠ .null → ∃ x ∈ xs, v = .text x) ∧ ∀ x ∈ xs, .text x ∈ m.values store env := by
  rw [holds_equalList_eq, Bool.and_eq_true, holds_hasOnly store env hm, holds_hasAll store env hm hxs]

end Operator

end Rows

end TableQuery
