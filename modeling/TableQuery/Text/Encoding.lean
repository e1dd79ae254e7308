import TableQuery.Text.Surrogate

/-!
# Encoded text

Bytes as text. `decodeLeniently` reads UTF-8 and puts a replacement character wherever the bytes are no text,
one for each longest beginning of a character that is broken off. `decode?` reads any of the encodings of
Unicode, which `Encoding.guess` tells apart by the zero bytes among the first four; it lets halves of surrogate
pairs stand alone.
-/

set_option autoImplicit false

namespace TableQuery.Text

def utf8Bytes (s : String) : List Nat :=
  s.toUTF8.toList.map (·.toNat)

/-! ## UTF-8 with replacements -/

/-- What the first byte of a character beyond ASCII says: its share of the code point, how many bytes follow,
and the range of the next one. -/
def leadingByte? (b : Nat) : Option (Nat × Nat × Nat × Nat) :=
  if 0xC2 ≤ b ∧ b ≤ 0xDF then some (b - 0xC0, 1, 0x80, 0xBF)
  else if b = 0xE0 then some (0, 2, 0xA0, 0xBF)
  else if b = 0xED then some (0xD, 2, 0x80, 0x9F)
  else if 0xE1 ≤ b ∧ b ≤ 0xEF then some (b - 0xE0, 2, 0x80, 0xBF)
  else if b = 0xF0 then some (0, 3, 0x90, 0xBF)
  else if 0xF1 ≤ b ∧ b ≤ 0xF3 then some (b - 0xF0, 3, 0x80, 0xBF)
  else if b = 0xF4 then some (4, 3, 0x80, 0x8F)
  else none

def replacement : Char := '\ufffd'

/-- The character that `missing` more bytes complete, the next of which lies between `low` and `high`, and the
bytes after it; a replacement for the bytes so far if the next one does not fit. -/
def followingBytes (code : Nat) : (missing low high : Nat) → List Nat → Char × List Nat
  | 0, _, _, bs => (Char.ofNat code, bs)
  | _ + 1, _, _, [] => (replacement, [])
  | n + 1, low, high, b :: r =>
    if low ≤ b ∧ b ≤ high then followingBytes (0x40 * code + (b - 0x80)) n 0x80 0xBF r else (replacement, b :: r)

/-- Bytes are only taken from the front. -/
theorem length_followingBytes_le (code missing low high : Nat) (bs : List Nat) :
    (followingBytes code missing low high bs).2.length ≤ bs.length := by
  fun_induction followingBytes code missing low high bs with
  | case1 | case2 | case4 => exact Nat.le_refl _
  | case3 _ _ _ _ _ r _ ih => exact Nat.le_succ_of_le ih

/-- The characters that bytes encode, with replacements. -/
def decodeChars : List Nat → List Char
  | [] => []
  | b :: r =>
    if b < 0x80 then Char.ofNat b :: decodeChars r
    else match leadingByte? b with
      | none => replacement :: decodeChars r
      | some (code, missing, low, high) =>
        have := length_followingBytes_le code missing low high r
        (followingBytes code missing low high r).1 :: decodeChars (followingBytes code missing low high r).2
termination_by bs => bs.length

/-- The text that bytes encode, with a replacement character for what is no text. -/
def decodeLeniently (bs : List Nat) : String :=
  String.ofList (decodeChars bs)

/-! ## The other encodings -/

/-- An encoding of Unicode, wide ones with the order of the bytes of a unit. -/
inductive Encoding where
  | utf8
  | utf16 (bigEndian : Bool)
  | utf32 (bigEndian : Bool)
  deriving DecidableEq, Repr, Inhabited

/-- The encoding of a text that starts with two ASCII characters, told by the zero bytes. -/
def Encoding.guess : List Nat → Encoding
  | [0, _] => .utf16 true
  | [_, 0] => .utf16 false
  | 0 :: 0 :: _ :: _ :: _ => .utf32 true
  | 0 :: _ :: _ :: _ :: _ => .utf16 true
  | _ :: 0 :: 0 :: 0 :: _ => .utf32 false
  | _ :: 0 :: _ :: _ :: _ => .utf16 false
  | _ => .utf8

/-- The number that the bytes of a unit write. -/
def unitOf (bigEndian : Bool) (bs : List Nat) : Nat :=
  ofDigits 256 (if bigEndian then bs else bs.reverse)

/-- Units of two bytes; none if a byte is left over. -/
def pairUnits? (bigEndian : Bool) : List Nat → Option (List Nat)
  | [] => some []
  | a :: b :: r => (pairUnits? bigEndian r).map (unitOf bigEndian [a, b] :: ·)
  | [_] => none

/-- Units of four bytes; none if a byte is left over. -/
def quadUnits? (bigEndian : Bool) : List Nat → Option (List Nat)
  | [] => some []
  | a :: b :: c :: d :: r => (quadUnits? bigEndian r).map (unitOf bigEndian [a, b, c, d] :: ·)
  | _ => none

/-- The code point of a pair of 16-bit units. -/
def joinUnits? (high low : Nat) : Option Nat :=
  if 0xD800 ≤ high ∧ high < 0xDC00 ∧ 0xDC00 ≤ low ∧ low < 0xE000 then
    some (0x10000 + (high - 0xD800) * 0x400 + (low - 0xDC00))
  else none

/-- The characters of 16-bit units, pairs joined where there are some. -/
def joinPairs : List Nat → List Char
  | [] => []
  | [u] => [charOfUnit u]
  | u :: v :: r => match joinUnits? u v with
    | some n => Char.ofNat n :: joinPairs r
    | none => charOfUnit u :: joinPairs (v :: r)

def Encoding.decode? : Encoding → List Nat → Option (List Char)
  | utf8, bs => some (decodeChars bs)
  | utf16 bigEndian, bs => (pairUnits? bigEndian bs).map joinPairs
  | utf32 bigEndian, bs => (quadUnits? bigEndian bs).bind fun units =>
    if units.all (· < 0x110000) then some (units.map charOfUnit) else none

end TableQuery.Text
