import TableQuery.Sql.Like
import TableQuery.Sql.Query
import TableQuery.Regex.Reader
import TableQuery.Regex.Search

/-!
# What clauses mean

A clause has a truth value in a row of joined tables, or none where something that it looks at is missing;
negation, conjunction and disjunction pass on what is unknown (`Truth`). A row satisfies a clause if the truth
value is `true`.

Patterns are only looked at when they are needed, from left to right, so that a malformed or an overlong one
does harm in the rows that reach it (`Clause.trips`) and in no others.
-/

set_option autoImplicit false

namespace TableQuery.Sql

abbrev Truth := Option Bool

namespace Truth

/-- True unless some part is false, or unknown. -/
def and : Truth → Truth → Truth
  | some false, _ | _, some false => some false
  | some true, some true => some true
  | _, _ => none

/-- False unless some part is true, or unknown. -/
def or : Truth → Truth → Truth
  | some true, _ | _, some true => some true
  | some false, some false => some false
  | _, _ => none

def not (t : Truth) : Truth := t.map (!·)

end Truth

abbrev Row := List (String × Value)

/-- The rows of joined tables by alias. -/
abbrev Env := List (String × Row)

/-- The tables of a database. -/
structure Store where
  tables : List (String × List Row) := []
  deriving Inhabited

def Store.rows (s : Store) (table : String) : List Row :=
  (s.tables.lookup table).getD []

/-- The value of a column; what is not there is missing. -/
def Env.read (env : Env) (r : Ref) : Value :=
  ((env.lookup r.source).bind (·.lookup r.column)).getD .null

def compareTruth (c : Comparison) (a b : Value) : Truth :=
  (a.compare? b).map c.holds

/-- The truth of a membership test; that a value is not among operands is unknown if one of these is missing. -/
def amongTruth (v : Value) (operands : List Operand) (negated : Bool) : Truth :=
  match v with
  | .null => none
  | v =>
    if operands.any fun o => v.compare (.ofOperand o) == .eq then some !negated
    else if operands.any fun o => Value.ofOperand o == .null then none
    else some negated

def Condition.truth (env : Env) : Condition → Truth
  | sameAs l r => compareTruth .eq (env.read l) (env.read r)
  | equals r .null => some (env.read r == .null)
  | equals r v => compareTruth .eq (env.read r) (.ofOperand v)
  | among r vs n => amongTruth (env.read r) vs n

def Condition.fitsStore : Condition → Bool
  | sameAs _ _ => true
  | equals _ v => v.fitsStore
  | among _ vs _ => vs.all Operand.fitsStore

def Condition.allHold (env : Env) (cs : List Condition) : Bool :=
  cs.all fun c => c.truth env == some true

namespace Members

/-- The values of the members that belong to a row, in the order of the child table. -/
def values (store : Store) (env : Env) (m : Members) : List Value :=
  ((store.rows m.table.table).filter fun row =>
      Condition.allHold ((m.table.name, row) :: env) (.sameAs m.child m.parent :: m.criteria)).map
    fun row => Env.read [(m.table.name, row)] m.value

/-- The different values that are not missing. -/
def different (store : Store) (env : Env) (m : Members) : List Value :=
  ((m.values store env).filter (· != .null)).foldl
    (fun seen v => if seen.any (·.compare v == .eq) then seen else seen ++ [v]) []

/-- The values that are not missing, joined by commas; missing if there are none. -/
def joinedValue (store : Store) (env : Env) (m : Members) : Value :=
  let texts := (m.values store env).filterMap Value.toText?
  if texts.isEmpty then .null else .text (",".intercalate texts)

end Members

/-- The value of a scalar for a group of `size` rows, of which `env` is the first. -/
def Scalar.value (store : Store) (env : Env) (size : Nat) : Scalar → Value
  | column r => env.read r
  | nullTest r n => .ofBool ((env.read r == .null) != n)
  | rowCount => .int size
  | joined m => m.joinedValue store env

def Value.asText (v : Value) : Value :=
  match v.toText? with
  | some s => .text s
  | none => .null

def Term.value (store : Store) (env : Env) : Term → Value
  | plain s => s.value store env 1
  | lower s => match (s.value store env 1).toText? with
    | some t => .text (Text.foldAscii t)
    | none => .null
  | asText s => (s.value store env 1).asText
  | orEmpty s => match s.value store env 1 with
    | .null => .text ""
    | v => v

/-- The regular expression that an operand writes. -/
def regexOf? (pattern : Operand) : Option Regex :=
  (Value.ofOperand pattern).toText?.bind Regex.parse?

/-- The most bytes that a like pattern may have. -/
def likePatternLimit : Nat := 50000

/-- A like pattern that is refused because of its length. -/
def isOverlong (pattern : Operand) : Bool :=
  match (Value.ofOperand pattern).toText? with
  | some s => likePatternLimit < s.utf8ByteSize
  | none => false

namespace Clause

mutual

def truth (store : Store) (env : Env) : Clause → Truth
  | const b | decided b => some b
  | nullTest s n => some ((s.value store env 1 == .null) != n)
  | compare c t v => compareTruth c (t.value store env) (.ofOperand v)
  | among t vs n => amongTruth (t.value store env) vs n
  | like t p e n => match (Value.ofOperand p).toText?, (t.value store env).toText? with
    | some pattern, some s => some (likes e pattern s != n)
    | _, _ => none
  | regexp t p n => match regexOf? p, (t.value store env).toText? with
    | some r, some s => some (r.search s != n)
    | _, _ => none
  | anyMember m => some !(m.values store env).isEmpty
  | memberCount m k n => some (((m.different store env).length == k) != n)
  | not c => (truth store env c).not
  | and cs => truthAll store env cs
  | or cs => truthAny store env cs

def truthAll (store : Store) (env : Env) : List Clause → Truth
  | [] => some true
  | c :: cs => (truth store env c).and (truthAll store env cs)

def truthAny (store : Store) (env : Env) : List Clause → Truth
  | [] => some false
  | c :: cs => (truth store env c).or (truthAny store env cs)

end

/-- Whether a row satisfies a clause. -/
def holds (store : Store) (env : Env) (c : Clause) : Bool :=
  c.truth store env == some true

mutual

/-- Whether a pattern that cannot be used is reached in a row. -/
def trips (store : Store) (env : Env) : Clause → Bool
  | like _ p _ _ => isOverlong p
  | regexp t p _ => (t.value store env != .null) && (regexOf? p).isNone
  | not c => trips store env c
  | and cs => tripsAll store env cs
  | or cs => tripsAny store env cs
  | _ => false

/-- Whether such a pattern is reached in a conjunction, which stops at the first part that is not true. -/
def tripsAll (store : Store) (env : Env) : List Clause → Bool
  | [] => false
  | c :: cs => trips store env c || (holds store env c && tripsAll store env cs)

/-- Whether such a pattern is reached in a disjunction, which stops at the first part that is true. -/
def tripsAny (store : Store) (env : Env) : List Clause → Bool
  | [] => false
  | c :: cs => trips store env c || (!holds store env c && tripsAny store env cs)

end

mutual

def fitsStore : Clause → Bool
  | compare _ _ v | like _ v _ _ | regexp _ v _ => v.fitsStore
  | among _ vs _ => vs.all Operand.fitsStore
  | anyMember m | memberCount m _ _ => m.criteria.all Condition.fitsStore
  | not c => fitsStore c
  | and cs => fitStore cs
  | or cs => fitStore cs
  | _ => true

def fitStore : List Clause → Bool
  | [] => true
  | c :: cs => fitsStore c && fitStore cs

end

end Clause

end TableQuery.Sql
