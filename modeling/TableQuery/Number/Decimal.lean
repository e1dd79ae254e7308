import TableQuery.Number.Rounding
import TableQuery.Number.Numeral

/-!
# Decimal numbers

A finite decimal is a signed coefficient times a power of ten. `nearest?` rounds it to an integer, a half going
to the even neighbour; `read?` and `toText` are its written form, which keeps the coefficient's zeros at the
end. An undefined number has a payload of digits, and may be signaling, which means that it cannot even be
rounded.
-/

set_option autoImplicit false

namespace TableQuery.Number

/-- A decimal number. -/
inductive Decimal where
  | finite (negative : Bool) (coefficient : Nat) (exponent : Int)
  | infinite (negative : Bool)
  /-- No number; the payload zero is not written. -/
  | nan (negative : Bool) (isSignaling : Bool) (payload : Nat)
  deriving DecidableEq, Repr, Inhabited

namespace Decimal

/-- The integer nearest to a finite decimal, the even one of two. A number with more places than digits, and one
more, is nearer to zero than to any other integer. -/
def nearest? : Decimal → Option Int
  | finite s c e =>
    some (withSign s (
      if 0 ≤ e then (if c = 0 then 0 else c * Nat.pow 10 e.toNat)
      else if (Text.natDigits c).length < (-e).toNat then 0
      else roundHalfEven c (Nat.pow 10 (-e).toNat)))
  | _ => none

/-- Different from zero; an undefined number counts as nonzero. -/
def isNonzero : Decimal → Bool
  | finite _ c _ => c != 0
  | _ => true

/-- The greatest exponent of a decimal in scientific form. -/
def greatestExponent : Int := 999999999999999999

/-- The least exponent of the last place of a decimal. -/
def leastExponent : Int := -1999999999999999997

/-- The finite decimal with the given parts, if its exponents are in range. -/
def ofParts? (negative : Bool) (c : Nat) (e : Int) : Option Decimal :=
  let adjusted := e + ((Text.natDigits c).length : Int) - 1
  if leastExponent ≤ e ∧ adjusted ≤ greatestExponent then some (finite negative c e) else none

/-- The exponent part of a written decimal. -/
def readExponent? : List Char → Option Int
  | [] => some 0
  | c :: r =>
    if c = 'e' ∨ c = 'E' then
      let (negative, ds) := splitSign r
      (Text.readNat? Text.digitValue? ds).map (withSign negative)
    else none

/-- The payload of an undefined number, possibly without digits. -/
def readPayload? (cs : List Char) : Option Nat :=
  if cs.isEmpty then some 0 else Text.readNat? Text.digitValue? cs

/-- The number that a text without blanks, underscores and sign writes. -/
def readUnsigned? (negative : Bool) (cs : List Char) : Option Decimal :=
  let word := cs.map Char.toLower
  if word = "inf".toList ∨ word = "infinity".toList then some (infinite negative)
  else if "nan".toList.isPrefixOf word then (readPayload? (cs.drop 3)).map (nan negative false)
  else if "snan".toList.isPrefixOf word then (readPayload? (cs.drop 4)).map (nan negative true)
  else
    let isDigit := fun c => (Text.digitValue? c).isSome
    let whole := cs.takeWhile isDigit
    let rest := cs.dropWhile isDigit
    let (fraction, rest) := match rest with
      | '.' :: r => (r.takeWhile isDigit, r.dropWhile isDigit)
      | r => ([], r)
    match Text.readNat? Text.digitValue? (whole ++ fraction), readExponent? rest with
    | some n, some e => ofParts? negative n (e - fraction.length)
    | _, _ => none

/-- The number that a text writes, blanks around it and underscores anywhere in it allowed. -/
def read? (s : String) : Option Decimal :=
  let (negative, cs) := splitSign ((Text.strip Text.isBlank s.toList).filter (· != '_'))
  readUnsigned? negative cs

/-- The digits with a point before the last `places`, zeros put in front where needed. -/
def withPoint (ds : List Char) (places : Nat) : List Char :=
  if places = 0 then ds
  else
    let ds := List.replicate (places + 1 - ds.length) '0' ++ ds
    ds.take (ds.length - places) ++ '.' :: ds.drop (ds.length - places)

/-- The text of a finite decimal without its sign: positional if the exponent is not positive and the number is
not too small. -/
def layout (c : Nat) (e : Int) : List Char :=
  let ds := Text.natDigits c
  let adjusted := e + ((ds.length : Int) - 1)
  if e ≤ 0 ∧ -6 ≤ adjusted then withPoint ds (-e).toNat
  else
    withPoint ds (ds.length - 1) ++ 'E' :: (if adjusted < 0 then '-' else '+') :: Text.natDigits adjusted.natAbs

def toText : Decimal → String
  | finite s c e => (if s then "-" else "") ++ String.ofList (layout c e)
  | infinite s => (if s then "-" else "") ++ "Infinity"
  | nan s isSignaling payload =>
    (if s then "-" else "") ++ (if isSignaling then "sNaN" else "NaN") ++ (if payload = 0 then "" else toString payload)

end Decimal

end TableQuery.Number
