/-!
# Rounding a quotient

`roundHalfEven n d` is the integer nearest to `n / d`, the even one of two that are equally near.
-/

set_option autoImplicit false

namespace TableQuery.Number

/-- The integer nearest to `num / den`; a tie goes to the even neighbour. -/
def roundHalfEven (num den : Nat) : Nat :=
  let q := num / den
  let r := num % den
  if 2 * r < den then q
  else if den < 2 * r then q + 1
  else q + q % 2

/-- A whole quotient is left alone. -/
theorem roundHalfEven_mul (n d : Nat) (h : 0 < d) : roundHalfEven (n * d) d = n := by
  simp [roundHalfEven, h]

/-- Rounding never goes below the quotient rounded down. -/
theorem div_le_roundHalfEven (num den : Nat) : num / den ≤ roundHalfEven num den := by
  simp only [roundHalfEven]
  split
  · exact Nat.le_refl _
  · split <;> omega

/-- Rounding never goes above the quotient rounded down, plus one. -/
theorem roundHalfEven_le (num den : Nat) : roundHalfEven num den ≤ num / den + 1 := by
  simp only [roundHalfEven]
  split
  · omega
  · split <;> omega

end TableQuery.Number
