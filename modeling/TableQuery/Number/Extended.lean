import TableQuery.Number.Shortest

/-!
# Extended precision

Positive numbers with 64 significant binary digits, each operation rounded once, a half going to the even
neighbour. The store turns a double into 15 decimal digits with this arithmetic (`Extended.digits`): it scales
the number to one digit before the point, adds half a unit of the last place and takes the digits off the front.
What lies half way between two texts therefore goes the way the rounding errors of those steps take it.
-/

set_option autoImplicit false

namespace TableQuery.Number

/-- The number `significand * 2 ^ exponent`. -/
structure Extended where
  significand : Nat
  exponent : Int
  deriving DecidableEq, Repr, Inhabited

namespace Extended

/-- Two powers of two that have the quotient `2 ^ e`. -/
def powers (e : Int) : Nat × Nat := (Nat.pow 2 e.toNat, Nat.pow 2 (-e).toNat)

/-- The nearest number to `num / den * 2 ^ e`. -/
def ofRatio (num den : Nat) (e : Int) : Extended :=
  if num = 0 then ⟨0, 0⟩
  else
    let guess : Int := (num.log2 : Int) - den.log2 - 63
    let steps := fun (shift : Int) => (num * (powers shift).2, den * (powers shift).1)
    let shift := if (steps guess).1 / (steps guess).2 < Nat.pow 2 63 then guess - 1 else guess
    ⟨roundHalfEven (steps shift).1 (steps shift).2, shift + e⟩

/-- The numerator and the denominator of a number. -/
def fraction (x : Extended) : Nat × Nat :=
  (x.significand * (powers x.exponent).1, (powers x.exponent).2)

/-- The number of a positive count of units. -/
def ofUnits (units : Nat) : Extended := ofRatio units Double.unit 0

/-- The double that is nearest to `digits * 10 ^ exponent`. -/
def ofScientific (digits : Nat) (exponent : Int) : Extended :=
  match Double.ofScientific false digits exponent with
  | .finite _ units => ofUnits units
  | _ => ⟨0, 0⟩

def mul (x y : Extended) : Extended :=
  ofRatio (x.significand * y.significand) 1 (x.exponent + y.exponent)

/-- The quotient by a number that is not zero. -/
def div (x y : Extended) : Extended :=
  ofRatio x.significand y.significand (x.exponent - y.exponent)

def add (x y : Extended) : Extended :=
  let (a, b) := x.fraction
  let (c, d) := y.fraction
  ofRatio (a * d + c * b) (b * d) 0

/-- Whether a number is less than another one. -/
def less (x y : Extended) : Bool :=
  let (a, b) := x.fraction
  let (c, d) := y.fraction
  a * d < c * b

def floor (x : Extended) : Nat := x.fraction.1 / x.fraction.2

/-- Ten times what is left without the whole part. -/
def nextPlace (x : Extended) : Extended :=
  let (a, b) := x.fraction
  ofRatio (10 * (a % b)) b 0

/-- The scale and its decimal exponent, multiplied by `10 ^ places` as long as `x` is no less than that, at most
so many times. -/
def raise (x : Extended) (places : Nat) : Nat → Extended × Int → Extended × Int
  | 0, scale => scale
  | n + 1, (scale, e) =>
    let next := (ofScientific 1 places).mul scale
    if x.less next then (scale, e) else raise x places n (next, e + places)

/-- A number multiplied by `10 ^ places` as long as it is less than `limit`, at most so many times, and the
decimal exponent that takes back. -/
def lift (limit : Extended) (places : Nat) : Nat → Extended × Int → Extended × Int
  | 0, x => x
  | n + 1, (x, e) =>
    if x.less limit then lift limit places n (x.mul (ofScientific 1 places), e - places) else (x, e)

/-- A number scaled to one digit before the point, and its decimal exponent. -/
def normalize (x : Extended) : Extended × Int :=
  let one := ofScientific 1 0
  let (scale, e) := raise x 1 10 (raise x 10 10 (raise x 100 4 (one, 0)))
  lift one 1 10 (lift (ofScientific 1 (-8)) 8 42 (x.div scale, e))

/-- Half a unit of the fifteenth digit of a number with one digit before the point: `5e-5` times `1e-10`, as
doubles. -/
def halfPlace : Extended :=
  let (a, b) := (ofScientific 5 (-5)).fraction
  let (c, d) := (ofScientific 1 (-10)).fraction
  ofUnits (Double.roundUnits (a * c * Double.unit) (b * d))

/-- The first digits of a number with one digit before the point. -/
def leadingDigits : Nat → Extended → List Char
  | 0, _ => []
  | n + 1, x => Nat.digitChar x.floor :: leadingDigits n x.nextPlace

/-- The 15 digits that stand for a positive number of units. -/
def digits (units : Nat) : Digits :=
  let (x, e) := normalize (ofUnits units)
  let raised := x.add halfPlace
  let (raised, e) := if raised.less (ofScientific 10 0) then (raised, e) else (raised.mul (ofScientific 1 (-1)), e + 1)
  ⟨((leadingDigits 15 raised).reverse.dropWhile (· = '0')).reverse, e + 1⟩

end Extended

/-- The text of a stored double: 15 digits, found in extended precision. -/
def Double.toStoredText (x : Double) : String := Style.stored.text Extended.digits x

end TableQuery.Number
