import TableQuery.Sql.Clause
import TableQuery.Sql.Like
import TableQuery.Text.Case
import TableQuery.Column.Kind
import TableQuery.Fault

/-!
# The clause of an operator on a column

`Operator.clause` says what an operator asks of the value of a column, or of the members of a list column. Texts
are compared for equality in lower case, and textual operators see an integer as text. `inverseClause` is the
opposite: for a column whose values may be missing, a missing value satisfies it.

The clause is meant for operators that the column accepts, with an operand of the right kind; `Operator.fault?`
tells when there is none.
-/

set_option autoImplicit false

namespace TableQuery

open Sql (Clause Term Scalar Members Source Comparison)

/-- What an operator compares with. -/
inductive Argument where
  | nothing
  | one (v : Operand)
  | many (vs : List Operand)
  deriving DecidableEq, Repr, Inhabited

namespace ColumnType

/-- The argument that a value is taken for without checking it. -/
def prepare (t : ColumnType) (o : Operator) (r : Rule) (j : Json) : Except Fault Argument :=
  if t.takesList o then do .ok (.many (← (← Fault.wrongKind.orElse j.elements?).mapM r.prepare))
  else (r.prepare j).map .one

/-- The value of a column as equality sees it. -/
def equalityTerm (t : ColumnType) (s : Scalar) : Term :=
  if t.kind = .string then .lower s else .plain s

def equalityOperand (t : ColumnType) (v : Operand) : Operand :=
  match t.kind, v with
  | .string, .text s => .text (Text.lower s)
  | _, v => v

/-- The value of a column as textual operators see it. -/
def textTerm (t : ColumnType) (s : Scalar) : Term :=
  if t.kind = .int then .asText s else .plain s

end ColumnType

namespace Operator

/-- The comparison that an operator makes on the value as it is. -/
def comparison? : Operator → Option Comparison
  | exact => some .eq
  | greater => some .gt
  | less => some .lt
  | atLeast => some .ge
  | atMost => some .le
  | _ => none

/-- The like pattern of an operator for an operand, and whether it is escaped. -/
def pattern? : Operator → Operand → Option (Operand × Bool)
  | endsWith, .text s => some (.text ("%" ++ Sql.escapeLike s), true)
  | startsWith, .text s => some (.text (Sql.escapeLike s ++ "%"), true)
  | contains, .text s => some (.text ("%" ++ Sql.escapeLike s ++ "%"), true)
  | like, v => some (v, false)
  | _, _ => none

/-- What a textual operator asks of the value of a column. -/
def textClause (o : Operator) (t : ColumnType) (s : Scalar) (v : Operand) : Clause :=
  match o.pattern? v with
  | some (pattern, escaped) => .like (t.textTerm s) pattern escaped false
  | none => .regexp (t.textTerm s) v false

/-- What an operator asks of the value of a column. To be equal to nothing is to be missing. -/
def valueClause (o : Operator) (t : ColumnType) (s : Scalar) : Argument → Clause
  | .nothing => .nullTest s false
  | .many vs => .among (t.equalityTerm s) (vs.map t.equalityOperand) false
  | .one v =>
    if o.isTextual then o.textClause t s v
    else if o.isComparison || v != .null then
      match o.comparison? with
      | some c => .compare c (.plain s) v
      | none => .compare .eq (t.equalityTerm s) (t.equalityOperand v)
    else .nullTest s false

/-- Every member is among the operands. -/
def onlyMembers (m : Members) (vs : List Operand) : Clause :=
  (Clause.anyMember (m.where_ (.among m.value vs true))).negate

/-- Every operand is a member: as many of them are members as there are. -/
def allMembers (m : Members) (vs : List Operand) : Clause :=
  .memberCount (m.where_ (.among m.value vs false)) vs.length false

/-- What an operator asks of the members of a list column. -/
def membersClause (o : Operator) (m : Members) : Argument → Clause
  | .nothing => (Clause.anyMember m).negate
  | .one v => .anyMember (m.where_ (.equals m.value v))
  | .many vs =>
    match o with
    | hasAny => .anyMember (m.where_ (.among m.value vs false))
    | hasAll => allMembers m vs
    | hasOnly => onlyMembers m vs
    | _ => .conj [onlyMembers m vs, allMembers m vs]

/-- What an operator asks of a column. -/
def clause (o : Operator) (t : ColumnType) (source : Source) (a : Argument) : Clause :=
  match source with
  | .value s => o.valueClause t s a
  | .members m => o.membersClause m a

/-- The opposite of what an operator asks of a column; a missing value satisfies it, if the operator is not
about missing values itself. -/
def inverseClause (o : Operator) (t : ColumnType) (source : Source) (a : Argument) : Clause :=
  let opposite := (o.clause t source a).negate
  match source with
  | .value s => if t.isNullable && o != .null then .disj [opposite, .nullTest s false] else opposite
  | .members _ => opposite

/-- Operators on the members of a list column. -/
def isOnMembers (o : Operator) : Bool :=
  o = .null || o = .equal || o = .has || o.isSetRelation

/-- Operators that need a text to compare with on a column of some type. -/
def needsText (o : Operator) (t : ColumnType) : Bool :=
  o = .endsWith || o = .startsWith || o = .contains || (t.kind = .string && (o = .equal || o = .oneOf))

def isTextOperand : Operand → Bool
  | .text _ => true
  | _ => false

/-- Operators that take no missing and no truth value. -/
def needsOrder (o : Operator) : Bool := o.isComparison || o = .like

/-- A value that has no place in an order. -/
def isUnordered : Operand → Bool
  | .null | .bool _ => true
  | _ => false

/-- Why an operator has no clause on columns of a type for an operand. -/
def fault? (o : Operator) (t : ColumnType) (a : Argument) : Option Fault :=
  let operands := match a with
    | .nothing => []
    | .one v => [v]
    | .many vs => vs
  let isKnown := if t.isList then o.isOnMembers else !(o = .has || o.isSetRelation)
  if !isKnown then some .missingKey
  else if !t.isList && o.needsText t && !operands.all isTextOperand then some .missingPart
  else if o.needsOrder && operands.any isUnordered then some .unordered
  else if operands.contains .null && operands.contains .structured then some .wrongKind
  else none

end Operator

/-- The argument of an operator that has a clause for it, made of a value without checking that against the rule
for operands; none if there is no such rule. The null operator has nothing to compare with. -/
def ColumnType.argument? (t : ColumnType) (o : Operator) (j : Json) : Option (Except Fault Argument) :=
  let checked := fun (a : Argument) => match o.fault? t a with
    | some f => Except.error f
    | none => .ok a
  if o = .null then some (checked .nothing)
  else (t.rule? o).map fun r => (t.prepare o r j).bind checked

end TableQuery
