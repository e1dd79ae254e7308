/-!
# Faults

The ways in which a computation on loosely typed values can fail. They say what was wrong with a value, not
where; the errors that a client can act on have types of their own.
-/

set_option autoImplicit false

namespace TableQuery

/-- Why a value could not be used. -/
inductive Fault where
  /-- A text does not write what was expected of it, or a value is not among the known ones. -/
  | badValue
  /-- A value of a kind that the operation does not work on. -/
  | wrongKind
  /-- A value without the part that was asked for. -/
  | missingPart
  /-- An object without the field that was asked for, or a name that is not known. -/
  | missingKey
  /-- A number or a date beyond what can be represented. -/
  | outOfRange
  /-- A text that is not JSON. -/
  | notJson
  | divisionByZero
  /-- A position beyond the end of a list. -/
  | badIndex
  /-- An undefined number in a calculation. -/
  | undefinedNumber
  /-- Lists or objects nested too deeply. -/
  | deepNesting
  /-- A missing or a truth value where only equality makes sense for it. -/
  | unordered
  /-- A control character where none can stand. -/
  | badCharacter
  /-- A lone half of a surrogate pair in a text that is to be encoded. -/
  | unencodable
  deriving DecidableEq, Repr, Inhabited

def Fault.name : Fault → String
  | badValue => "ValueError"
  | wrongKind => "TypeError"
  | missingPart => "AttributeError"
  | missingKey => "KeyError"
  | outOfRange => "OverflowError"
  | notJson => "JSONDecodeError"
  | divisionByZero => "ZeroDivisionError"
  | badIndex => "IndexError"
  | undefinedNumber => "InvalidOperation"
  | deepNesting => "RecursionError"
  | unordered => "ArgumentError"
  | badCharacter => "IllegalCharacterError"
  | unencodable => "UnicodeEncodeError"

def Fault.orElse {α : Type} (f : Fault) : Option α → Except Fault α
  | some a => .ok a
  | none => .error f

end TableQuery
