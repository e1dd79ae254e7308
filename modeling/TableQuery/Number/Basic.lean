import TableQuery.Number.Shortest

/-!
# Numbers

A number is an integer of any size or a double. The two are compared by their exact values, whatever their kinds;
arithmetic that involves a double is done on doubles.
-/

set_option autoImplicit false

namespace TableQuery.Number

/-- An integer or a double precision number. -/
inductive Numeric where
  | int (n : Int)
  | double (x : Double)
  deriving DecidableEq, Repr, Inhabited

namespace Numeric

/-- The position on the number line in units of the least double. -/
def position? : Numeric → Option Int
  | int n => some (n * Double.unit)
  | double x => x.position?

def same (a b : Numeric) : Bool :=
  match a.position?, b.position? with
  | some i, some j => i == j
  | _, _ => false

def less (a b : Numeric) : Bool :=
  match a.position?, b.position? with
  | some i, some j => i < j
  | _, _ => false

def toDouble : Numeric → Double
  | int n => Double.ofInt n
  | double x => x

def add : Numeric → Numeric → Numeric
  | int a, int b => int (a + b)
  | a, b => double (a.toDouble.add b.toDouble)

/-- The quotient as a double, rounded once if both are integers; none if the divisor is zero. -/
def div? : Numeric → Numeric → Option Double
  | int a, int b => if b = 0 then none else some (Double.ofRatio ((a < 0) != (b < 0)) a.natAbs b.natAbs)
  | a, b => a.toDouble.div? b.toDouble

def isNonzero : Numeric → Bool
  | int n => n != 0
  | double x => x.isNonzero

def toText : Numeric → String
  | int n => toString n
  | double x => x.toText

/-- Equal integers are the same number and no others are. -/
theorem same_int (a b : Int) : same (int a) (int b) = decide (a = b) := by
  have h : (Double.unit : Int) ≠ 0 := by decide +kernel
  have hmul : (a * (Double.unit : Int) = b * (Double.unit : Int)) ↔ a = b :=
    ⟨fun e => Int.eq_of_mul_eq_mul_right h e, fun e => e ▸ rfl⟩
  show (a * (Double.unit : Int) == b * (Double.unit : Int)) = decide (a = b)
  rw [Bool.eq_iff_iff, beq_iff_eq, decide_eq_true_iff]
  exact hmul

end Numeric

end TableQuery.Number
