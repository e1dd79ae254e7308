import TableQuery.Text.Alphanumeric
import TableQuery.Text.Blank
import TableQuery.Text.Case
import TableQuery.Text.Digit

/-!
# Regular expressions

The expressions of the regexp operator: classes of characters, assertions about a place in a text, sequences,
alternatives and repetitions, groups that remember what they matched, and looks ahead of and behind a place.
`Regex.width` bounds the number of characters that an expression takes; a look behind needs one that is certain.

Where case does not count, a character is compared in its lower case form, and stands for all members of a class
whose lower case forms have the same capital. A class letter is asked about the lower case form itself, and a text
that is matched again is compared by lower case forms alone.
-/

set_option autoImplicit false

namespace TableQuery

/-! ## Characters -/

/-- How letters are compared, and whether only ASCII counts as letters, digits and blanks. -/
structure CharMode where
  caseless : Bool := false
  ascii : Bool := false
  deriving DecidableEq, Repr, Inhabited

/-- A member of a class of characters. The ends of a range are code points, as a class may name some that no
text holds. -/
inductive ClassItem where
  | range (first last : Nat)
  | digit (negated : Bool)
  | space (negated : Bool)
  | word (negated : Bool)
  deriving DecidableEq, Repr

/-- A class of characters. -/
structure CharClass where
  items : List ClassItem
  negated : Bool := false
  mode : CharMode := {}
  deriving DecidableEq, Repr

/-- A letter, a number or an underscore. -/
def isWordChar (ascii : Bool) (c : Char) : Bool :=
  c == '_' || if ascii then c.isAlphanum else Text.isAlphanumeric c

namespace CharMode

/-- The form in which a character of a text is compared. -/
def fold (m : CharMode) (c : Char) : Char :=
  if !m.caseless then c else if m.ascii then c.toLower else Text.lowerSingle c

/-- The characters of a class that stand for a character in the form in which it is compared. -/
def variants (m : CharMode) (c : Char) : List Char :=
  if !m.caseless then [c] else if m.ascii then [c, c.toUpper] else Text.caseless c

end CharMode

/-- Whether a class with the member takes a character in the form in which it is compared. -/
def ClassItem.admits (m : CharMode) : ClassItem → Char → Bool
  | range a b, c => (m.variants c).any fun v => a ≤ v.toNat && v.toNat ≤ b
  | digit n, c => (if m.ascii then c.isDigit else (Text.digitValue? c).isSome) != n
  | space n, c => (if m.ascii then Text.isAsciiBlank c else Text.isBlank c) != n
  | word n, c => isWordChar m.ascii c != n

def CharClass.admits (k : CharClass) (c : Char) : Bool :=
  k.items.any (·.admits k.mode (k.mode.fold c)) != k.negated

/-! ## Expressions -/

/-- An assertion about a place. -/
inductive PlaceTest where
  | textStart
  /-- At the start, or after a line feed. -/
  | lineStart
  | textEnd
  /-- At the end, or before a line feed at the end. -/
  | lastLineEnd
  /-- At the end, or before a line feed. -/
  | lineEnd
  | wordEdge (negated ascii : Bool)
  deriving DecidableEq, Repr

/-- How much a repetition takes: as much as it can, as little as it can, or as much as it can without ever
giving anything back. -/
inductive Greed where
  | greedy
  | lazy
  | possessive
  deriving DecidableEq, Repr

/-- A regular expression. -/
inductive Regex where
  | empty
  | oneOf (k : CharClass)
  | place (test : PlaceTest)
  | seq (first second : Regex)
  | alt (first second : Regex)
  | rep (body : Regex) (least : Nat) (most : Option Nat) (greed : Greed)
  /-- What the body matches is remembered under a number. -/
  | group (number : Nat) (body : Regex)
  /-- The text remembered under a number. -/
  | again (number : Nat) (mode : CharMode)
  /-- The first way in which the body matches; no other is tried later. -/
  | atomic (body : Regex)
  | ahead (negated : Bool) (body : Regex)
  /-- The body matches the given number of characters before the place. -/
  | behind (negated : Bool) (width : Nat) (body : Regex)
  /-- One of two expressions, as something is remembered under a number or not. -/
  | ifGroup (number : Nat) (yes no : Regex)
  deriving Repr, Inhabited

/-! ## Width -/

/-- The least and the greatest number of characters that something takes, if there is one. -/
structure Width where
  least : Nat
  most : Option Nat
  deriving DecidableEq, Repr, Inhabited

namespace Width

def append (a b : Width) : Width :=
  ⟨a.least + b.least, a.most.bind fun m => b.most.map (m + ·)⟩

def either (a b : Width) : Width :=
  ⟨min a.least b.least, a.most.bind fun m => b.most.map (max m ·)⟩

def times (w : Width) (least : Nat) (most : Option Nat) : Width :=
  ⟨w.least * least, match w.most, most with
    | some m, some n => some (m * n)
    | some 0, none => some 0
    | _, _ => none⟩

/-- The number of characters, if it is certain. -/
def fixed? (w : Width) : Option Nat :=
  w.most.filter (· == w.least)

end Width

/-- The width of an expression, where groups that are matched again have the given widths. -/
def Regex.width (ofGroup : Nat → Width) : Regex → Width
  | oneOf _ => ⟨1, some 1⟩
  | seq a b => (a.width ofGroup).append (b.width ofGroup)
  | alt a b => (a.width ofGroup).either (b.width ofGroup)
  | rep a least most _ => (a.width ofGroup).times least most
  | group _ a | atomic a => a.width ofGroup
  | again n _ => ofGroup n
  | ifGroup _ a b => (a.width ofGroup).either (b.width ofGroup)
  | empty | place _ | ahead _ _ | behind _ _ _ => ⟨0, some 0⟩

end TableQuery
