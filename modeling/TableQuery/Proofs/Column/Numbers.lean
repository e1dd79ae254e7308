import Mathlib.Algebra.Order.Round
import Mathlib.Data.Rat.Floor
import Mathlib.Tactic.Linarith
import TableQuery.Proofs.Column.Shown
import TableQuery.Proofs.Number.Rounding

/-!
# Numbers as they are shown

A column of integers may hold doubles and decimals. A decimal is shown as the nearest integer, the even one of two
that are equally near (`Number.Decimal.exists_nearest?`), and a double loses its fraction
(`Number.Double.truncate?_eq`). So a number that both can represent is shown alike iff its fraction is less than a
half, or the half and the integer even (`ColumnType.render_number`); if not, the decimal is shown one further from zero.
-/

set_option autoImplicit false

namespace TableQuery

open Number (Double Decimal)

namespace Number

variable {q : ℚ} {m n : ℤ}

/-! ## Rounding -/

/-- **The integer nearest to a number**, the even one of two that are equally near. -/
structure IsNearestEven (q : ℚ) (n : ℤ) : Prop where
  near : ∀ k : ℤ, |q - n| ≤ |q - k|
  even : ∀ k : ℤ, k ≠ n → |q - n| = |q - k| → Even n

def wholePart (q : ℚ) : ℤ :=
  if 0 ≤ q then ⌊q⌋ else ⌈q⌉

theorem IsNearestEven.le_half (h : IsNearestEven q n) : |q - n| ≤ 1 / 2 :=
  (h.near (round q)).trans (abs_sub_round q)

theorem isNearestEven_iff : IsNearestEven q n ↔ |q - n| ≤ 1 / 2 ∧ (|q - n| = 1 / 2 → Even n) := by
  constructor
  · refine fun h => ⟨h.le_half, fun htie => ?_⟩
    -- The neighbour on the other side of the number is as near.
    rcases abs_choice (q - n) with habs | habs
    · refine h.even (n + 1) (by omega) ?_
      rw [htie, abs_of_nonpos] <;> push_cast <;> linarith
    · refine h.even (n - 1) (by omega) ?_
      rw [htie, abs_of_nonneg] <;> push_cast <;> linarith
  · rintro ⟨hle, heven⟩
    -- Any other integer is at least one away from this one.
    have hother : ∀ k : ℤ, k ≠ n → 1 / 2 ≤ |q - k| := by
      intro k hk
      have hone : (1 : ℚ) ≤ |(k : ℚ) - n| := by exact_mod_cast Int.one_le_abs (sub_ne_zero.2 hk)
      have htriangle := abs_sub_le (k : ℚ) q n
      rw [abs_sub_comm (k : ℚ) q] at htriangle
      linarith
    refine ⟨fun k => ?_, fun k hk hsame => heven (le_antisymm hle (hsame ▸ hother k hk))⟩
    rcases eq_or_ne k n with rfl | hk
    · exact le_rfl
    · exact hle.trans (hother k hk)

theorem IsNearestEven.unique (hm : IsNearestEven q m) (hn : IsNearestEven q n) : m = n := by
  by_contra hne
  have hsame : |q - m| = |q - n| := le_antisymm (hm.near n) (hn.near m)
  obtain ⟨a, ha⟩ := hm.even n (Ne.symm hne) hsame
  obtain ⟨b, hb⟩ := hn.even m hne hsame.symm
  have hle : |m - n| ≤ 1 := by
    have htriangle := abs_sub_le (m : ℚ) q n
    rw [abs_sub_comm (m : ℚ) q] at htriangle
    have hcast : |(m : ℚ) - n| ≤ 1 := by linarith [hm.le_half, hn.le_half]
    exact_mod_cast hcast
  obtain ⟨hlow, hhigh⟩ := abs_le.1 hle
  omega

theorem IsNearestEven.neg (h : IsNearestEven q n) : IsNearestEven (-q) (-n) := by
  have hsame : |-q - ((-n : ℤ) : ℚ)| = |q - n| := by
    push_cast
    rw [neg_sub_neg, abs_sub_comm]
  rw [isNearestEven_iff, hsame, even_neg]
  exact isNearestEven_iff.1 h

theorem isNearestEven_intCast (n : ℤ) : IsNearestEven n n := by
  rw [isNearestEven_iff, sub_self, abs_zero]
  norm_num

theorem wholePart_neg : wholePart (-q) = -wholePart q := by
  unfold wholePart
  rcases lt_trichotomy q 0 with hq | rfl | hq
  · rw [if_pos (by linarith), if_neg hq.not_ge, Int.floor_neg]
  · simp
  · rw [if_neg (by linarith), if_pos hq.le, Int.ceil_neg]

/-- A number without its fraction is the nearest integer iff the fraction is less than a half, or the half and the
integer even. -/
theorem IsNearestEven.wholePart_eq_iff (h : IsNearestEven q n) : wholePart q = n ↔
    |q - wholePart q| < 1 / 2 ∨ |q - wholePart q| = 1 / 2 ∧ Even (wholePart q) := by
  constructor
  · rintro rfl
    exact h.le_half.lt_or_eq.imp_right fun htie => ⟨htie, (isNearestEven_iff.1 h).2 htie⟩
  · rintro (hless | ⟨htie, heven⟩)
    · exact (isNearestEven_iff.2 ⟨hless.le, fun htie => absurd htie hless.ne⟩).unique h
    · exact (isNearestEven_iff.2 ⟨htie.le, fun _ => heven⟩).unique h

theorem IsNearestEven.eq_wholePart_add_one (h : IsNearestEven q n) (hq : 0 ≤ q) (hne : wholePart q ≠ n) :
    n = wholePart q + 1 := by
  rw [wholePart, if_pos hq] at hne ⊢
  obtain ⟨hlow, hhigh⟩ := abs_le.1 h.le_half
  have hfloor := Int.floor_le q
  have hfloor' := Int.lt_floor_add_one q
  have hmin : ⌊q⌋ < n + 1 := by
    have hcast : (⌊q⌋ : ℚ) < n + 1 := by linarith
    exact_mod_cast hcast
  have hmax : n < ⌊q⌋ + 2 := by
    have hcast : (n : ℚ) < ⌊q⌋ + 2 := by linarith
    exact_mod_cast hcast
  omega

theorem IsNearestEven.eq_wholePart_add (h : IsNearestEven q n) (hne : wholePart q ≠ n) :
    n = wholePart q + if 0 ≤ q then 1 else -1 := by
  split_ifs with hq
  · exact h.eq_wholePart_add_one hq hne
  · have hnext := h.neg.eq_wholePart_add_one (by linarith) (by rw [wholePart_neg]; omega)
    rw [wholePart_neg] at hnext
    omega

theorem isNearestEven_roundHalfEven {num den : Nat} (hden : 0 < den) :
    IsNearestEven (num / den) (roundHalfEven num den) := by
  have hpos : (0 : ℚ) < den := by exact_mod_cast hden
  have hquotient : (num : ℚ) / den = (num / den : Nat) + (num % den : Nat) / den := by
    rw [eq_comm, ← mul_left_inj' hpos.ne', add_mul, div_mul_cancel₀ _ hpos.ne', div_mul_cancel₀ _ hpos.ne']
    exact_mod_cast Nat.div_add_mod' num den
  have hzero : (0 : ℚ) ≤ (num % den : Nat) / den := div_nonneg (Nat.cast_nonneg _) hpos.le
  have hone : ((num % den : Nat) : ℚ) / den < 1 := (div_lt_one hpos).2 (by exact_mod_cast Nat.mod_lt num hden)
  have hless : 2 * (num % den) < den ↔ ((num % den : Nat) : ℚ) / den < 1 / 2 := by
    rw [div_lt_div_iff₀ hpos two_pos, one_mul, mul_comm]
    norm_cast
  have hmore : den < 2 * (num % den) ↔ 1 / 2 < ((num % den : Nat) : ℚ) / den := by
    rw [div_lt_div_iff₀ two_pos hpos, one_mul, mul_comm]
    norm_cast
  rw [isNearestEven_iff, hquotient, roundHalfEven]
  simp only [hless, hmore]
  generalize ((num % den : Nat) : ℚ) / den = fraction at hzero hone
  generalize num / den = quotient
  split_ifs with hbelow habove
  · rw [Int.cast_natCast, add_sub_cancel_left, abs_of_nonneg hzero]
    exact ⟨hbelow.le, fun htie => absurd htie hbelow.ne⟩
  · push_cast
    rw [add_sub_add_left_eq_sub, abs_of_nonpos (by linarith)]
    exact ⟨by linarith, fun htie => absurd htie (by linarith)⟩
  · obtain rfl : fraction = 1 / 2 := le_antisymm (not_lt.1 habove) (not_lt.1 hbelow)
    rcases Nat.even_or_odd quotient with heven | hodd
    · rw [Nat.even_iff.1 heven, Nat.add_zero, Int.cast_natCast, add_sub_cancel_left]
      norm_num
      exact heven
    · rw [Nat.odd_iff.1 hodd]
      norm_num
      exact hodd

/-! ## The values of numbers -/

def Double.value? : Double → Option ℚ
  | .finite s u => some (signedUnits s u / unit)
  | _ => none

def Decimal.value? : Decimal → Option ℚ
  | .finite s c e => some (withSign s c * 10 ^ e)
  | _ => none

theorem Double.value?_quarters (a : Nat) : (Double.finite false (a * (unit / 4))).value? = some ((a : ℚ) / 4) := by
  have hunit : unit = unit / 4 * 4 := by decide +kernel
  have hpos : ((unit / 4 : Nat) : ℚ) ≠ 0 := Nat.cast_ne_zero.2 (by decide +kernel)
  rw [value?, signedUnits, if_neg Bool.false_ne_true, Int.cast_natCast]
  generalize unit / 4 = quarter at hunit hpos
  rw [hunit, Nat.cast_mul, Nat.cast_mul, mul_comm (quarter : ℚ), mul_div_mul_right _ _ hpos]
  rfl

theorem Double.truncate?_eq {x : Double} (hx : x.value? = some q) : x.truncate? = some (wholePart q) := by
  cases x with
  | infinite s | nan => cases hx
  | finite s u =>
    obtain rfl := Option.some.inj hx
    have hwhole : wholePart ((u : ℚ) / unit) = (u / unit : Nat) := by
      rw [wholePart, if_pos (by positivity), Rat.floor_natCast_div_natCast]
      rfl
    cases s with
    | false =>
      rw [truncate?, signedUnits, signedUnits, if_neg Bool.false_ne_true, if_neg Bool.false_ne_true, Int.cast_natCast,
        hwhole]
    | true =>
      rw [truncate?, signedUnits, signedUnits, if_pos rfl, if_pos rfl, Int.cast_neg, Int.cast_natCast, neg_div,
        wholePart_neg, hwhole]

theorem isNearestEven_of_length_lt {c k : Nat} (h : (Text.natDigits c).length < k) :
    IsNearestEven (c / (10 ^ k : Nat)) 0 := by
  have hdigits : c < 10 ^ (Text.natDigits c).length :=
    (Nat.length_toDigits_le_iff (by decide) Nat.length_toDigits_pos).1 (Nat.le_refl _)
  have hplaces : 10 ^ (Text.natDigits c).length * 10 ≤ 10 ^ k := Nat.pow_le_pow_right (Nat.zero_lt_succ 9) h
  have hpos : (0 : ℚ) < (10 ^ k : Nat) := by positivity
  have hhalf : (c : ℚ) / (10 ^ k : Nat) < 1 / 2 := by
    rw [div_lt_div_iff₀ hpos two_pos]
    exact_mod_cast (by omega : c * 2 < 1 * 10 ^ k)
  rw [isNearestEven_iff, Int.cast_zero, sub_zero, abs_of_nonneg (by positivity)]
  exact ⟨hhalf.le, fun htie => absurd htie hhalf.ne⟩

theorem IsNearestEven.withSign {n : Nat} (h : IsNearestEven q n) (negative : Bool) :
    IsNearestEven (if negative then -q else q) (withSign negative n) := by
  cases negative with
  | false => exact h
  | true => exact h.neg

theorem Decimal.exists_nearest? {d : Decimal} (hd : d.value? = some q) :
    ∃ n, d.nearest? = some n ∧ IsNearestEven q n := by
  cases d with
  | infinite s | nan s b p => cases hd
  | finite s c e =>
    obtain rfl := Option.some.inj hd
    refine ⟨_, rfl, ?_⟩
    have hsigned : (Number.withSign s c : ℚ) * 10 ^ e = if s then -((c : ℚ) * 10 ^ e) else (c : ℚ) * 10 ^ e := by
      cases s <;> simp [Number.withSign]
    rw [hsigned]
    refine IsNearestEven.withSign ?_ s
    split_ifs with hwhole hzero hshort
    · rw [hzero, Nat.cast_zero, zero_mul]
      exact isNearestEven_intCast 0
    · obtain ⟨k, rfl⟩ := Int.eq_ofNat_of_zero_le hwhole
      have h := isNearestEven_intCast (c * 10 ^ k)
      simpa using h
    · obtain ⟨k, rfl⟩ := Int.exists_eq_neg_ofNat (not_le.1 hwhole).le
      rw [neg_neg, Int.toNat_natCast] at hshort
      rw [zpow_neg, zpow_natCast, ← div_eq_mul_inv]
      exact_mod_cast isNearestEven_of_length_lt hshort
    · obtain ⟨k, rfl⟩ := Int.exists_eq_neg_ofNat (not_le.1 hwhole).le
      have hplaces : 0 < 10 ^ k := Nat.pow_pos (by decide)
      have h : IsNearestEven ((c : ℚ) / (10 ^ k : Nat)) (roundHalfEven c (10 ^ k)) :=
        isNearestEven_roundHalfEven hplaces
      rw [zpow_neg, zpow_natCast, ← div_eq_mul_inv, neg_neg, Int.toNat_natCast]
      exact_mod_cast h

end Number

namespace ColumnType

variable {t : ColumnType} {x : Double} {d : Decimal} {q : ℚ}

theorem render_of_renderInt {c : Cell} {n : ℤ} (ht : t.kind = .int ∨ t.kind = .count) (hc : c.isMissing = false)
    (h : c.renderInt = .ok n) : t.render c = .ok (.int n) := by
  rw [render, hc, if_neg Bool.false_ne_true]
  rcases ht with ht | ht <;> rw [ht, Kind.render, h] <;> rfl

/-- **A number as a double and as a decimal** is shown without its fraction and rounded. -/
theorem render_number (ht : t.kind = .int ∨ t.kind = .count) (hx : x.value? = some q) (hd : d.value? = some q) :
    ∃ m n : ℤ, t.render (.json (.double x)) = .ok (.int m) ∧ t.render (.decimal d) = .ok (.int n) ∧
      m = Number.wholePart q ∧ Number.IsNearestEven q n ∧
      (m = n ↔ |q - m| < 1 / 2 ∨ |q - m| = 1 / 2 ∧ Even m) ∧ (m ≠ n → n = m + if 0 ≤ q then 1 else -1) := by
  obtain ⟨n, hn, hnear⟩ := Decimal.exists_nearest? hd
  have hdouble : (Cell.json (.double x)).renderInt = .ok (Number.wholePart q) :=
    Cell.renderInt_double (Double.truncate?_eq hx)
  have hdecimal : (Cell.decimal d).renderInt = .ok n := by
    cases d with
    | infinite s | nan s b p => cases hd
    | finite s c e =>
      have hrender : (Cell.decimal (.finite s c e)).renderInt =
          Fault.badValue.orElse (Decimal.finite s c e).nearest? := rfl
      rw [hrender, hn]
      rfl
  exact ⟨Number.wholePart q, n, render_of_renderInt ht rfl hdouble, render_of_renderInt ht rfl hdecimal, rfl, hnear,
    hnear.wholePart_eq_iff, hnear.eq_wholePart_add⟩

/-- Two and a half is shown as two, whichever of the two it is. -/
theorem render_number_twoAndHalf :
    (Double.ofRatio false 5 2).value? = some (5 / 2) ∧ (Decimal.finite false 25 (-1)).value? = some (5 / 2) ∧
      intNullable.render (.json (.double (Double.ofRatio false 5 2))) = .ok (.int 2) ∧
      intNullable.render (.decimal (.finite false 25 (-1))) = .ok (.int 2) := by
  have hx : (Double.ofRatio false 5 2).value? = some (5 / 2) := by
    have hquarters : Double.ofRatio false 5 2 = .finite false (10 * (Double.unit / 4)) := by decide +kernel
    rw [hquarters, Double.value?_quarters]
    norm_num
  have hd : (Decimal.finite false 25 (-1)).value? = some (5 / 2) := by
    norm_num [Decimal.value?, Number.withSign]
  obtain ⟨m, n, hm, hn, hwhole, -, hagree, -⟩ := render_number (t := intNullable) (.inl rfl) hx hd
  have htwo : m = 2 := by
    rw [hwhole, Number.wholePart, if_pos (by norm_num), Int.floor_eq_iff]
    norm_num
  have hsame : m = n := hagree.2 (.inr (by rw [htwo]; norm_num))
  rw [← hsame] at hn
  rw [htwo] at hm hn
  exact ⟨hx, hd, hm, hn⟩

/-- Three quarters are shown as one, the nearest integer, if they are a decimal, and as zero if they are a double. -/
theorem not_isNearestEven_threeQuarters :
    (Double.ofRatio false 3 4).value? = some (3 / 4) ∧ (Decimal.finite false 75 (-2)).value? = some (3 / 4) ∧
      wholeNullable.render (.json (.double (Double.ofRatio false 3 4))) = .ok (.int 0) ∧
      wholeNullable.render (.decimal (.finite false 75 (-2))) = .ok (.int 1) ∧
      ¬Number.IsNearestEven (3 / 4) 0 ∧ Number.IsNearestEven (3 / 4) 1 := by
  refine ⟨?_, ?_, ?_, ?_, ?_, ?_⟩
  · have hquarters : Double.ofRatio false 3 4 = .finite false (3 * (Double.unit / 4)) := by decide +kernel
    rw [hquarters, Double.value?_quarters]
    norm_num
  · norm_num [Decimal.value?, Number.withSign]
  · have hzero : (Double.ofRatio false 3 4).truncate? = some 0 := by decide +kernel
    exact render_of_renderInt (.inl rfl) rfl (Cell.renderInt_double hzero)
  · rfl
  · rw [Number.isNearestEven_iff]
    norm_num
  · rw [Number.isNearestEven_iff]
    norm_num

end ColumnType

end TableQuery
