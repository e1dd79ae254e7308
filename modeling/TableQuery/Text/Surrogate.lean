import TableQuery.Text.Digit

/-!
# Halves of surrogate pairs

Two 16-bit units from the surrogate range write one character. An escaped text may hold one of them without the
other, which is no character. Such a lone half is kept as a character of a private plane, one for each half, so
that a text can hold it and a printer can tell it (`half?`) and write the half again. The characters from U+10D800 to
U+10DFFF stand for lone halves only: texts that hold these characters themselves are not represented.
-/

set_option autoImplicit false

namespace TableQuery.Text

/-- Whether a 16-bit unit is half of a surrogate pair. -/
def isHalf (unit : Nat) : Prop := 0xD800 ≤ unit ∧ unit < 0xE000

instance (unit : Nat) : Decidable (isHalf unit) := inferInstanceAs (Decidable (_ ∧ _))

/-- The distance from a lone half to the character that is kept for it. -/
def halfShift : Nat := 0x100000

/-- The character of a 16-bit unit that stands alone. -/
def charOfUnit (unit : Nat) : Char :=
  Char.ofNat (if isHalf unit then unit + halfShift else unit)

/-- The lone half that a character is kept for. -/
def half? (c : Char) : Option Nat :=
  if isHalf (c.toNat - halfShift) then some (c.toNat - halfShift) else none

/-- A text with a lone half, which cannot be encoded. -/
def hasHalf (s : String) : Bool :=
  s.toList.any fun c => (half? c).isSome

end TableQuery.Text
