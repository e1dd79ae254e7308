import Mathlib.Algebra.Group.Nat.Defs
import TableQuery.Number.Basic

/-!
# Rounding keeps the order

The double nearest to a number is not above the one nearest to a greater number (`Double.roundUnits_mono`). A difference
of doubles, which is rounded, is therefore not less than a double that the exact difference is not less than
(`Double.not_less_of_isPast`), and not greater than one that the exact difference is not greater than.

Quotients of whole numbers up to `2 ^ 53` are on the same side of every integer before and after they are rounded
(`Double.roundUnits_le_iff`): those between two integers are further away from these than the nearest doubles.
-/

set_option autoImplicit false

namespace TableQuery.Number

theorem roundHalfEven_mono {m n : Nat} (den : Nat) (h : m ≤ n) : roundHalfEven m den ≤ roundHalfEven n den := by
  have hq : m / den ≤ n / den := Nat.div_le_div_right h
  rcases Nat.lt_or_eq_of_le hq with hlt | heq
  · exact Nat.le_trans (roundHalfEven_le m den) (Nat.le_trans hlt (div_le_roundHalfEven n den))
  · -- the quotients are equal, so the remainders are in order
    have hm := Nat.div_add_mod m den
    have hn := Nat.div_add_mod n den
    rw [heq] at hm
    have hr : m % den ≤ n % den := by omega
    unfold roundHalfEven
    rw [heq]
    dsimp only
    repeat' split
    all_goals omega

theorem roundHalfEven_mul_right {num den k : Nat} (hk : 0 < k) :
    roundHalfEven (num * k) (den * k) = roundHalfEven num den := by
  have hless : ∀ {a b : Nat}, a * k < b * k ↔ a < b := Nat.mul_lt_mul_right hk
  unfold roundHalfEven
  simp only [Nat.mul_div_mul_right num den hk, Nat.mul_mod_mul_right, ← Nat.mul_assoc, hless]

theorem lt_roundHalfEven {num den n : Nat} (hden : 0 < den) (h : (2 * n + 1) * den < 2 * num) :
    n < roundHalfEven num den := by
  rcases Nat.lt_or_ge n (num / den) with hlt | hge
  · exact Nat.lt_of_lt_of_le hlt (div_le_roundHalfEven num den)
  -- So the quotient rounded down is `n`, and what remains is more than the half.
  have hdiv := Nat.div_add_mod num den
  have hmod := Nat.mod_lt num hden
  have hle : n ≤ num / den := by
    refine Nat.not_lt.1 fun hgt => ?_
    have hmul : (num / den + 1) * den ≤ n * den := Nat.mul_le_mul_right den hgt
    rw [Nat.add_mul, Nat.mul_comm (num / den)] at hmul
    rw [Nat.add_mul, Nat.mul_assoc] at h
    omega
  obtain rfl : n = num / den := Nat.le_antisymm hle hge
  have hhalf : den < 2 * (num % den) := by
    rw [Nat.add_mul, Nat.mul_assoc, Nat.mul_comm (num / den)] at h
    omega
  unfold roundHalfEven
  rw [if_neg (by omega), if_pos hhalf]
  exact Nat.lt_succ_self _

namespace Double

/-! ## Units -/

variable {num num' den n : Nat}

@[simp] theorem roundUnits_zero : roundUnits 0 den = 0 := by
  simp [roundUnits, roundHalfEven]

theorem roundUnits_le_pow : roundUnits num den ≤ 2 ^ (53 + ((num / den).log2 - 52)) := by
  rw [Nat.pow_add]
  refine Nat.mul_le_mul_right _ (Nat.le_trans (roundHalfEven_le _ _) ?_)
  have hlt : num / den < 2 ^ ((num / den).log2 - 52) * 2 ^ 53 := by
    rw [← Nat.pow_add]
    exact Nat.lt_of_lt_of_le Nat.lt_log2_self (Nat.pow_le_pow_right (by decide) (by omega))
  rw [← Nat.div_div_eq_div_mul]
  exact Nat.div_lt_of_lt_mul hlt

theorem pow_le_roundUnits (hpos : num / den ≠ 0) (h : 52 ≤ (num / den).log2) :
    2 ^ (num / den).log2 ≤ roundUnits num den := by
  have hpow : 2 ^ (num / den).log2 = 2 ^ 52 * 2 ^ ((num / den).log2 - 52) := by
    rw [← Nat.pow_add, Nat.add_sub_cancel' h]
  rw [hpow]
  refine Nat.mul_le_mul_right _ (Nat.le_trans ?_ (div_le_roundHalfEven _ _))
  show 2 ^ 52 ≤ num / (den * 2 ^ ((num / den).log2 - 52))
  rw [← Nat.div_div_eq_div_mul, Nat.le_div_iff_mul_le (Nat.two_pow_pos _), ← hpow]
  exact Nat.log2_self_le hpos

/-- **Rounding keeps the order.** -/
theorem roundUnits_mono (h : num ≤ num') : roundUnits num den ≤ roundUnits num' den := by
  by_cases heq : (num / den).log2 - 52 = (num' / den).log2 - 52
  · unfold roundUnits
    rw [heq]
    exact Nat.mul_le_mul_right _ (roundHalfEven_mono _ h)
  · -- more bits of the one number are rounded away, so a power of two is between the two
    have hdiv : num / den ≤ num' / den := Nat.div_le_div_right h
    have hpos : num' / den ≠ 0 := by
      intro hzero
      rw [hzero, Nat.le_zero] at hdiv
      rw [hzero, hdiv] at heq
      exact heq rfl
    have hlog : (num / den).log2 ≤ (num' / den).log2 := by
      rcases Nat.eq_zero_or_pos (num / den) with hzero | hpos'
      · rw [hzero, Nat.log2_zero]
        exact Nat.zero_le _
      · exact (Nat.le_log2 hpos).2 (Nat.le_trans (Nat.log2_self_le (by omega)) hdiv)
    calc roundUnits num den ≤ 2 ^ (53 + ((num / den).log2 - 52)) := roundUnits_le_pow
      _ ≤ 2 ^ (num' / den).log2 := Nat.pow_le_pow_right (by decide) (by omega)
      _ ≤ roundUnits num' den := pow_le_roundUnits hpos (by omega)

/-! ## Quotients -/

theorem roundUnits_pos (hden : 0 < den) (h : den ≤ num) : 0 < roundUnits num den := by
  have hpos : 0 < num / den := Nat.div_pos h hden
  refine Nat.mul_pos (Nat.lt_of_lt_of_le ?_ (div_le_roundHalfEven _ _)) (Nat.two_pow_pos _)
  show 0 < num / (den * 2 ^ ((num / den).log2 - 52))
  rw [← Nat.div_div_eq_div_mul]
  refine Nat.div_pos (Nat.le_trans ?_ (Nat.log2_self_le (by omega))) (Nat.two_pow_pos _)
  exact Nat.pow_le_pow_right (by decide) (Nat.sub_le _ _)

theorem roundUnits_mul_right {k : Nat} (hk : 0 < k) : roundUnits (num * k) (den * k) = roundUnits num den := by
  unfold roundUnits
  rw [Nat.mul_div_mul_right num den hk]
  dsimp only
  rw [Nat.mul_right_comm den k, roundHalfEven_mul_right hk]

theorem roundUnits_mul_of_dvd (hden : 0 < den) (h : 2 ^ (n.log2 - 52) ∣ n) : roundUnits (n * den) den = n := by
  obtain ⟨k, hk⟩ := h
  have hnum : n * den = k * (den * 2 ^ (n.log2 - 52)) := by
    rw [← Nat.mul_assoc, Nat.mul_right_comm, Nat.mul_comm k, ← hk]
  unfold roundUnits
  rw [Nat.mul_div_cancel n hden]
  show roundHalfEven (n * den) (den * 2 ^ (n.log2 - 52)) * 2 ^ (n.log2 - 52) = n
  rw [hnum, roundHalfEven_mul _ _ (Nat.mul_pos hden (Nat.two_pow_pos _)), Nat.mul_comm, ← hk]

/-! ## Quotients of whole numbers -/

variable {m rows size : Nat}

theorem exists_unit : ∃ k, k = 1074 ∧ unit = 2 ^ k := by
  obtain ⟨k, hk⟩ : ∃ k, k = 1074 := ⟨_, rfl⟩
  refine ⟨k, hk, ?_⟩
  unfold unit
  rw [← hk]
  rfl

theorem unit_pos : 0 < unit := by
  obtain ⟨k, -, hunit⟩ := exists_unit
  rw [hunit]
  exact Nat.two_pow_pos k

theorem log2_eq_add {k x : Nat} (hm : m ≠ 0) (hle : m * 2 ^ k ≤ x) (hlt : x < (m + 1) * 2 ^ k) :
    x.log2 = m.log2 + k := by
  have hlow : 2 ^ (m.log2 + k) ≤ x := by
    rw [Nat.pow_add]
    exact Nat.le_trans (Nat.mul_le_mul_right _ (Nat.log2_self_le hm)) hle
  have hhigh : x < 2 ^ (m.log2 + k + 1) := by
    rw [Nat.add_right_comm, Nat.pow_add]
    exact Nat.lt_of_lt_of_le hlt (Nat.mul_le_mul_right _ Nat.lt_log2_self)
  have hx : x ≠ 0 := Nat.pos_iff_ne_zero.1 (Nat.lt_of_lt_of_le (Nat.two_pow_pos _) hlow)
  exact (Nat.log2_eq_iff hx).2 ⟨hlow, hhigh⟩

theorem roundUnits_whole (hden : 0 < den) (hm : m ≤ 2 ^ 53) : roundUnits (m * unit * den) den = m * unit := by
  rcases Nat.eq_zero_or_pos m with rfl | hpos
  · simp
  refine roundUnits_mul_of_dvd hden ?_
  obtain ⟨k, hk, hunit⟩ := exists_unit
  have hlog : (m * unit).log2 = m.log2 + k := by
    refine log2_eq_add (Nat.pos_iff_ne_zero.1 hpos) (Nat.le_of_eq (by rw [hunit])) ?_
    rw [← hunit]
    exact Nat.mul_lt_mul_of_pos_right (Nat.lt_succ_self m) unit_pos
  rw [hlog, hunit]
  rcases Nat.lt_or_eq_of_le hm with hlt | rfl
  · have hbits : m.log2 < 53 := (Nat.log2_lt (Nat.pos_iff_ne_zero.1 hpos)).2 hlt
    exact Nat.dvd_mul_left_of_dvd (Nat.pow_dvd_pow 2 (by omega)) m
  · rw [Nat.log2_two_pow, ← Nat.pow_add]
    exact Nat.pow_dvd_pow 2 (by omega)

/-- The quotient that follows an integer `n` is rounded to a multiple of the distance that doubles have next to `n`: it
goes into the unit `2 ^ 52` times, halved for each bit that `n` has after its first one. -/
theorem exists_roundUnits_succ (hn : 0 < n) (hlow : n.log2 ≤ 52) (hsize : 1 < size) :
    ∃ distance, unit = 2 ^ (52 - n.log2) * 2 ^ distance ∧
      roundUnits ((n * size + 1) * unit) size =
        roundHalfEven ((n * size + 1) * 2 ^ (52 - n.log2)) size * 2 ^ distance := by
  obtain ⟨k, hk, hunit⟩ := exists_unit
  have hsplit : unit = 2 ^ (52 - n.log2) * 2 ^ (n.log2 + k - 52) := by
    rw [hunit, ← Nat.pow_add]
    exact congrArg (2 ^ ·) (by omega)
  have hlog : ((n * size + 1) * unit / size).log2 = n.log2 + k := by
    refine log2_eq_add (Nat.pos_iff_ne_zero.1 hn) ?_ ?_
    · rw [← hunit, Nat.le_div_iff_mul_le (by omega), Nat.mul_right_comm]
      exact Nat.mul_le_mul_right unit (Nat.le_succ _)
    · rw [← hunit, Nat.div_lt_iff_lt_mul (by omega), Nat.mul_right_comm]
      exact Nat.mul_lt_mul_of_pos_right (by rw [Nat.add_mul]; omega) unit_pos
  refine ⟨n.log2 + k - 52, hsplit, ?_⟩
  unfold roundUnits
  rw [hlog]
  show roundHalfEven ((n * size + 1) * unit) (size * 2 ^ (n.log2 + k - 52)) * 2 ^ (n.log2 + k - 52) = _
  generalize n.log2 + k - 52 = distance at hsplit
  rw [hsplit, ← Nat.mul_assoc, roundHalfEven_mul_right (Nat.two_pow_pos distance)]

/-- **A quotient beyond an integer is not rounded to it.** The quotient that follows the integer is further away from it
than the half of the distance to the next double. -/
theorem lt_roundUnits (hsize : 0 < size) (hfew : size ≤ 2 ^ 53) (hrows : rows ≤ 2 ^ 53) (h : n * size < rows) :
    n * unit < roundUnits (rows * unit) size := by
  rcases Nat.eq_zero_or_pos n with rfl | hn
  · obtain ⟨k, hk, hunit⟩ := exists_unit
    rw [Nat.zero_mul]
    refine roundUnits_pos hsize (Nat.le_trans hfew (Nat.le_trans ?_ (Nat.le_mul_of_pos_left unit (by omega))))
    rw [hunit]
    exact Nat.pow_le_pow_right (by decide) (by omega)
  refine Nat.lt_of_lt_of_le ?_ (roundUnits_mono (Nat.mul_le_mul_right unit (show n * size + 1 ≤ rows from h)))
  rcases Nat.lt_or_eq_of_le hsize with hmore | rfl
  case inr =>
    -- The quotient is the next integer.
    have hnext : (n * 1 + 1) * unit = (n + 1) * unit * 1 := by rw [Nat.mul_one, Nat.mul_one]
    rw [Nat.succ_eq_add_one, hnext, roundUnits_whole Nat.one_pos (by omega)]
    exact Nat.mul_lt_mul_of_pos_right (Nat.lt_succ_self n) unit_pos
  have hbits : size * 2 ^ n.log2 < 2 ^ 53 := by
    have hle := Nat.mul_le_mul_left size (Nat.log2_self_le (Nat.pos_iff_ne_zero.1 hn))
    rw [Nat.mul_comm size n] at hle
    omega
  have hlow : n.log2 ≤ 52 := by
    refine Nat.le_of_lt_succ ((Nat.pow_lt_pow_iff_right (by decide : 1 < 2)).1 (Nat.lt_of_le_of_lt ?_ hbits))
    exact Nat.le_mul_of_pos_left _ hsize
  have hhalf : size < 2 * 2 ^ (52 - n.log2) := by
    refine Nat.lt_of_mul_lt_mul_right (Nat.lt_of_lt_of_le hbits (Nat.le_of_eq ?_))
    rw [← Nat.pow_succ', ← Nat.pow_add]
    exact congrArg (2 ^ ·) (by omega)
  obtain ⟨distance, hsplit, hround⟩ := exists_roundUnits_succ hn hlow hmore
  have hmultiple : n * unit = n * 2 ^ (52 - n.log2) * 2 ^ distance := by rw [hsplit, ← Nat.mul_assoc]
  rw [hround, hmultiple]
  refine Nat.mul_lt_mul_of_pos_right (lt_roundHalfEven hsize ?_) (Nat.two_pow_pos _)
  calc (2 * (n * 2 ^ (52 - n.log2)) + 1) * size = 2 * (n * size * 2 ^ (52 - n.log2)) + size := by
        rw [Nat.add_mul, Nat.one_mul, Nat.mul_assoc, Nat.mul_right_comm n]
    _ < 2 * (n * size * 2 ^ (52 - n.log2)) + 2 * 2 ^ (52 - n.log2) := Nat.add_lt_add_left hhalf _
    _ = 2 * ((n * size + 1) * 2 ^ (52 - n.log2)) := by rw [Nat.add_mul, Nat.one_mul, Nat.mul_add]

/-- **Rounding moves no quotient of whole numbers past an integer.** -/
theorem roundUnits_le_iff (hrows : rows ≤ 2 ^ 53) (hsize : 0 < size) (hfew : size ≤ 2 ^ 53) :
    roundUnits (rows * unit) size ≤ n * unit ↔ rows ≤ n * size := by
  constructor
  · intro h
    refine Nat.not_lt.1 fun hlt => ?_
    exact Nat.not_lt_of_le h (lt_roundUnits hsize hfew hrows hlt)
  · intro h
    -- An integer that is no greater than the numerator is a double.
    have hmin : rows ≤ min n rows * size := by
      rw [← Nat.mul_min_mul_right]
      exact Nat.le_min.2 ⟨h, Nat.le_mul_of_pos_right rows hsize⟩
    calc roundUnits (rows * unit) size ≤ roundUnits (min n rows * unit * size) size := by
          rw [Nat.mul_right_comm]
          exact roundUnits_mono (Nat.mul_le_mul_right unit hmin)
      _ = min n rows * unit := roundUnits_whole hsize (Nat.le_trans (Nat.min_le_right n rows) hrows)
      _ ≤ n * unit := Nat.mul_le_mul_right unit (Nat.min_le_left n rows)

theorem exists_ceil?_ofRatio (hrows : rows ≤ 2 ^ 53) (hsize : 0 < size) (hfew : size ≤ 2 ^ 53) :
    ∃ n : Nat, (ofRatio false rows size).ceil? = some (n : Int) ∧ ∀ m, n ≤ m ↔ rows ≤ m * size := by
  have hle : roundUnits (rows * unit) size ≤ 2 ^ 53 * unit :=
    (roundUnits_le_iff hrows hsize hfew).2 (Nat.le_trans hrows (Nat.le_mul_of_pos_right _ hsize))
  have hbound : roundUnits (rows * unit) size < bound := Nat.lt_of_le_of_lt hle (by decide +kernel)
  refine ⟨(roundUnits (rows * unit) size + (unit - 1)) / unit, ?_, fun m => ?_⟩
  · rw [ofRatio, ofUnits, if_pos hbound]
    rfl
  · rw [← roundUnits_le_iff hrows hsize hfew, ← Nat.lt_succ_iff, Nat.div_lt_iff_lt_mul unit_pos, Nat.succ_mul]
    have := unit_pos
    omega

/-! ## Positions -/

theorem position?_ofSignedUnits (n : Int) :
    (ofSignedUnits n).position? = some (signedUnits (n < 0) (min (roundUnits n.natAbs 1) bound)) := by
  unfold ofSignedUnits ofUnits
  split
  next h =>
    rw [Nat.min_eq_left (Nat.le_of_lt h)]
    rfl
  next h =>
    rw [Nat.min_eq_right (Nat.not_lt.1 h)]
    cases decide (n < 0) <;> rfl

theorem position?_ofSignedUnits_mono {m n p q : Int} (h : m ≤ n) (hp : (ofSignedUnits m).position? = some p)
    (hq : (ofSignedUnits n).position? = some q) : p ≤ q := by
  rw [position?_ofSignedUnits, Option.some.injEq] at hp hq
  have hup : m.natAbs ≤ n.natAbs → roundUnits m.natAbs 1 ≤ roundUnits n.natAbs 1 := roundUnits_mono
  have hdown : n.natAbs ≤ m.natAbs → roundUnits n.natAbs 1 ≤ roundUnits m.natAbs 1 := roundUnits_mono
  subst hp hq
  generalize bound = b
  by_cases hm : m < 0 <;> by_cases hn : n < 0 <;> simp only [signedUnits, hm, hn, decide_true, decide_false] <;>
    simp <;> omega

theorem position?_sub {x y : Double} {m n : Int} (hx : x.isFinite = true) (hy : y.isFinite = true)
    (hm : x.position? = some m) (hn : y.position? = some n) :
    (x.sub y).position? = (ofSignedUnits (m - n)).position? := by
  cases x with
  | finite s u =>
    cases y with
    | finite t v =>
      cases hm
      cases hn
      have hneg : signedUnits (!t) v = -signedUnits t v := by cases t <;> simp [signedUnits]
      rw [sub, neg, add, hneg, ← Int.sub_eq_add_neg]
      split
      next h =>
        obtain ⟨rfl, rfl⟩ := h
        have hzero : ∀ b, signedUnits b 0 = 0 := fun b => by cases b <;> rfl
        rw [position?_ofSignedUnits, hzero, hzero, position?, hzero]
        simp [signedUnits]
      next => rfl
    | _ => cases hy
  | _ => cases hx

end Double

/-! ## Differences -/

/-- There is a double at the position of a number. -/
def Numeric.IsDouble (x : Numeric) : Prop :=
  ∃ n, x.position? = some n ∧ (Double.ofSignedUnits n).position? = some n

/-- By its exact value a double is greater than another one by at least `least`. -/
def Double.IsPast (x y : Double) (least : Numeric) : Prop :=
  ∃ m n d, x.position? = some m ∧ y.position? = some n ∧ least.position? = some d ∧ n + d ≤ m

namespace Double

variable {x y : Double} {d e : Numeric}

theorem less_double_sub {m n i p : Int} (hx : x.isFinite = true) (hy : y.isFinite = true)
    (hm : x.position? = some m) (hn : y.position? = some n) (hi : d.position? = some i)
    (hp : (ofSignedUnits (m - n)).position? = some p) : (Numeric.double (x.sub y)).less d = decide (p < i) := by
  have hsub : (Numeric.double (x.sub y)).position? = some p := (position?_sub hx hy hm hn).trans hp
  rw [Numeric.less, hsub, hi]

/-- **What is past by a double is past by the rounded difference.** -/
theorem not_less_of_isPast (hx : x.isFinite = true) (hy : y.isFinite = true) (hd : d.IsDouble) (h : x.IsPast y d) :
    (Numeric.double (x.sub y)).less d = false := by
  obtain ⟨m, n, i, hm, hn, hi, hle⟩ := h
  obtain ⟨i', hi', hround⟩ := hd
  cases hi.symm.trans hi'
  obtain ⟨p, hp⟩ : ∃ p, (ofSignedUnits (m - n)).position? = some p := ⟨_, position?_ofSignedUnits _⟩
  have hmono : i ≤ p := position?_ofSignedUnits_mono (by omega) hround hp
  rw [less_double_sub hx hy hm hn hi hp]
  exact decide_eq_false (by omega)

/-- **What is past by the rounded difference is past by every lesser double.** -/
theorem isPast_of_not_less (hx : x.isFinite = true) (hy : y.isFinite = true)
    (h : (Numeric.double (x.sub y)).less d = false) (he : e.IsDouble) (hless : e.less d = true) : x.IsPast y e := by
  obtain ⟨j, hj, hround⟩ := he
  obtain ⟨m, hm⟩ : ∃ m, x.position? = some m := by cases x <;> first | exact ⟨_, rfl⟩ | cases hx
  obtain ⟨n, hn⟩ : ∃ n, y.position? = some n := by cases y <;> first | exact ⟨_, rfl⟩ | cases hy
  obtain ⟨p, hp⟩ : ∃ p, (ofSignedUnits (m - n)).position? = some p := ⟨_, position?_ofSignedUnits _⟩
  rw [Numeric.less, hj] at hless
  split at hless
  next j' i hj' hi =>
    cases hj'
    rw [less_double_sub hx hy hm hn hi hp, decide_eq_false_iff_not] at h
    refine ⟨m, n, j, hm, hn, hj, Int.not_lt.1 fun hlt => ?_⟩
    have hmono : p ≤ j := position?_ofSignedUnits_mono (by omega) hp hround
    have hji : j < i := of_decide_eq_true hless
    omega
  next => cases hless

end Double

end TableQuery.Number
