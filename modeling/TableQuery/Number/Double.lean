import TableQuery.Number.Rounding

/-!
# Double precision numbers

A finite double is a sign and a number of *units* of `2 ^ (-1074)`, the least positive double. Every operation
is exact arithmetic on units followed by one rounding to 53 significant bits (`roundUnits`), so no law needs
more than natural numbers. Doubles of different sign and zero units compare equal, as the two zeros do.
-/

set_option autoImplicit false

namespace TableQuery.Number

/-- A double precision number. -/
inductive Double where
  | finite (negative : Bool) (units : Nat)
  | infinite (negative : Bool)
  | nan
  deriving DecidableEq, Repr, Inhabited

namespace Double

def unit : Nat := Nat.pow 2 1074

/-- The number of units beyond the largest finite double. -/
def bound : Nat := Nat.pow 2 2098

/-- The number of units nearest to `num / den` that has at most 53 significant bits. -/
def roundUnits (num den : Nat) : Nat :=
  let excess := Nat.pow 2 ((num / den).log2 - 52)
  roundHalfEven num (den * excess) * excess

/-- A sign and a number of units as a double, infinite from `bound` on. -/
def ofUnits (negative : Bool) (units : Nat) : Double :=
  if units < bound then finite negative units else infinite negative

/-- The double nearest to `± num / den`. -/
def ofRatio (negative : Bool) (num den : Nat) : Double :=
  ofUnits negative (roundUnits (num * unit) den)

/-- The double nearest to an integer. -/
def ofInt (n : Int) : Double :=
  ofRatio (n < 0) n.natAbs 1

/-- The double nearest to `± digits * 10 ^ exponent`. -/
def ofScientific (negative : Bool) (digits : Nat) (exponent : Int) : Double :=
  if digits = 0 then finite negative 0
  else if 400 < exponent then infinite negative
  else if exponent + digits.log2 < -400 then finite negative 0
  else if 0 ≤ exponent then ofRatio negative (digits * Nat.pow 10 exponent.toNat) 1
  else ofRatio negative digits (Nat.pow 10 (-exponent).toNat)

/-- The signed number of units of a finite double. -/
def signedUnits (negative : Bool) (units : Nat) : Int :=
  if negative then -(units : Int) else units

/-- The double nearest to a signed number of units. -/
def ofSignedUnits (n : Int) : Double :=
  ofUnits (n < 0) (roundUnits n.natAbs 1)

/-- Neither infinite nor undefined. -/
def isFinite : Double → Bool
  | finite _ _ => true
  | _ => false

/-- The number with the opposite sign. -/
def neg : Double → Double
  | finite s u => finite (!s) u
  | infinite s => infinite (!s)
  | nan => nan

/-- The rounded sum. The sum of two negative zeros is negative, of all other opposites positive. -/
def add : Double → Double → Double
  | finite s u, finite t v =>
    if u = 0 ∧ v = 0 then finite (s && t) 0
    else ofSignedUnits (signedUnits s u + signedUnits t v)
  | infinite s, infinite t => if s = t then infinite s else nan
  | infinite s, finite _ _ => infinite s
  | finite _ _, infinite t => infinite t
  | _, _ => nan

def sub (x y : Double) : Double :=
  x.add y.neg

/-- The rounded quotient, none if the divisor is zero. -/
def div? : Double → Double → Option Double
  | _, finite _ 0 => none
  | finite s u, finite t v => some (ofRatio (s != t) u v)
  | infinite s, finite t _ => some (infinite (s != t))
  | finite s _, infinite t => some (finite (s != t) 0)
  | _, _ => some nan

/-- The number without its fraction, if it is finite. -/
def truncate? : Double → Option Int
  | finite s u => some (signedUnits s (u / unit))
  | _ => none

/-- The least integer that is not below the number, if it is finite. -/
def ceil? : Double → Option Int
  | finite false u => some (((u + (unit - 1)) / unit : Nat) : Int)
  | finite true u => some (-((u / unit : Nat) : Int))
  | _ => none

/-- The integer that the number is equal to. -/
def toInt? (x : Double) : Option Int :=
  match x with
  | finite s u => if u % unit = 0 then some (signedUnits s (u / unit)) else none
  | _ => none

/-- Different from both zeros. -/
def isNonzero : Double → Bool
  | finite _ u => u != 0
  | _ => true

/-- A position on the number line that has the infinities at its ends, `none` for an undefined number. -/
def position? : Double → Option Int
  | finite s u => some (signedUnits s u)
  | infinite false => some bound
  | infinite true => some (-bound)
  | nan => none

end Double

end TableQuery.Number
