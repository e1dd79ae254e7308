import TableQuery.Number.Double
import TableQuery.Text.Digit

/-!
# Decimal text of doubles

`shortest` finds the fewest digits that read back as the same double, the nearest of those. A `Style` decides
how digits are laid out: `Style.plain` is the one of answers and messages, `Style.stored` the one of a number
that the store turns into text.
-/

set_option autoImplicit false

namespace TableQuery.Number

/-- The number `0.d₁d₂…dₙ * 10 ^ point`, with no zero at the end of the digits. -/
structure Digits where
  digits : List Char
  point : Int

namespace Digits

/-- The number of decimal places before the first digit of `units`, so that its value lies in
`[10 ^ (k - 1), 10 ^ k)`. -/
def magnitude (units : Nat) : Int :=
  if Double.unit ≤ units then (Text.natDigits (units / Double.unit)).length
  else
    let q := (Double.unit + units - 1) / units
    1 - (if q ≤ 1 then 0 else (Text.natDigits (q - 1)).length : Nat)

/-- The digits of `n`, which counts steps of `10 ^ (k - places)`. -/
def ofSteps (n places : Nat) (k : Int) : Digits :=
  let ds := Text.natDigits n
  ⟨(ds.reverse.dropWhile (· = '0')).reverse, k + ((ds.length : Int) - places)⟩

/-- The value in units as a fraction of steps of `10 ^ e`. -/
def inSteps (units : Nat) (e : Int) : Nat × Nat :=
  if 0 ≤ e then (units, Double.unit * Nat.pow 10 e.toNat) else (units * Nat.pow 10 (-e).toNat, Double.unit)

/-- The units that `n` steps of `10 ^ e` read as. -/
def unitsOfSteps (n : Nat) (e : Int) : Nat :=
  if 0 ≤ e then Double.roundUnits (n * Nat.pow 10 e.toNat * Double.unit) 1
  else Double.roundUnits (n * Double.unit) (Nat.pow 10 (-e).toNat)

/-- The number of steps of `10 ^ e` next to `units` that reads back as `units`; of two the nearer one, or the even
one if they are equally near. -/
def stepsFor? (units : Nat) (e : Int) : Option Nat :=
  let (num, den) := inSteps units e
  let n := num / den
  let below := unitsOfSteps n e == units
  let above := unitsOfSteps (n + 1) e == units
  if below && above then some (roundHalfEven num den)
  else if below then some n
  else if above then some (n + 1)
  else none

/-- The fewest digits that read back as a positive number of units. -/
def shortest (units : Nat) : Digits :=
  let k := magnitude units
  let found := (List.range 17).findSome? fun i =>
    (stepsFor? units (k - (i + 1 : Nat))).map fun n => ofSteps n (i + 1) k
  found.getD (ofSteps (let (num, den) := inSteps units (k - 17); num / den) 17 k)

end Digits

/-- How digits are laid out. -/
structure Style where
  /-- The least decimal exponent that is written without an exponent. -/
  lowest : Int
  /-- The greatest decimal exponent that is written without an exponent. -/
  highest : Int
  /-- A fraction is written even beside an exponent. -/
  alwaysFraction : Bool
  /-- The texts of an infinite and of an undefined number. -/
  infinity : String
  undefined : String

namespace Style

/-- Positional from `0.0001` to below `10 ^ 16`. -/
def plain : Style := ⟨-4, 15, false, "inf", "nan"⟩

/-- As `plain`, with the names that JSON readers know for the numbers that are not finite. -/
def json : Style := { plain with infinity := "Infinity", undefined := "NaN" }

/-- Positional from `0.0001` to below `10 ^ 15`, always with a fraction. -/
def stored : Style := ⟨-4, 14, true, "Inf", "NaN"⟩

/-- The text of a decimal exponent: a sign and at least two digits. -/
def exponentText (e : Int) : String :=
  (if e < 0 then "e-" else "e+") ++ Text.padded 2 e.natAbs

/-- The text of a positive number. -/
def layout (style : Style) (d : Digits) : String :=
  let n := d.digits.length
  let e := d.point - 1
  if style.lowest ≤ e ∧ e ≤ style.highest then
    if d.point ≤ 0 then
      String.ofList ('0' :: '.' :: List.replicate (-d.point).toNat '0' ++ d.digits)
    else
      let k := d.point.toNat
      if n ≤ k then String.ofList (d.digits ++ List.replicate (k - n) '0' ++ ['.', '0'])
      else String.ofList (d.digits.take k ++ '.' :: d.digits.drop k)
  else
    let fraction := d.digits.drop 1
    let fraction := if fraction.isEmpty && style.alwaysFraction then ['0'] else fraction
    String.ofList (d.digits.take 1 ++ (if fraction.isEmpty then [] else '.' :: fraction)) ++ exponentText e

/-- The text of a double whose digits are found by `digits`. -/
def text (style : Style) (digits : Nat → Digits) : Double → String
  | .finite s 0 => if s then "-0.0" else "0.0"
  | .finite s u => (if s then "-" else "") ++ style.layout (digits u)
  | .infinite s => (if s then "-" else "") ++ style.infinity
  | .nan => style.undefined

end Style

namespace Double

def toText (x : Double) : String := Style.plain.text Digits.shortest x

end Double

end TableQuery.Number
