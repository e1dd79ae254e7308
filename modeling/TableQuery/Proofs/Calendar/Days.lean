import TableQuery.Proofs.Calendar.Written

/-!
# The numbers of days

The day with the number of a date is that date (`Date.ofOrdinal?_ordinal`), so that a moment that is moved by nothing
stays where it is (`Moment.shift?_zero`).
-/

set_option autoImplicit false

namespace TableQuery

namespace Date

/-! ## Years -/

def daysInYear (year : Nat) : Nat := if isLeap year then 366 else 365

theorem isLeap_iff (year : Nat) :
    isLeap year = true ↔ year % 4 = 0 ∧ (year % 100 ≠ 0 ∨ year % 400 = 0) := by
  simp [isLeap]

/-- **A day within a year lies in that year.** -/
theorem yearOfDay_daysBeforeYear {year n : Nat} (hyear : 1 ≤ year) (hn : n < daysInYear year) :
    yearOfDay (daysBeforeYear year + n) = (year, n) := by
  -- The years before are so many times four hundred, one hundred, four and one.
  obtain ⟨a, b, c, d, hb, hc, hd, rfl⟩ : ∃ a b c d, b ≤ 3 ∧ c ≤ 24 ∧ d ≤ 3 ∧ year = 400 * a + 100 * b + 4 * c + d + 1 :=
    ⟨(year - 1) / 400, (year - 1) % 400 / 100, (year - 1) % 100 / 4, (year - 1) % 4, by omega, by omega, by omega,
      by omega⟩
  have hlast : n < 365 ∨ n = 365 ∧ d = 3 ∧ (c ≠ 24 ∨ b = 3) := by
    rw [daysInYear] at hn
    split at hn
    next hleap =>
      obtain ⟨hfour, hmore⟩ := (isLeap_iff _).1 hleap
      omega
    next => exact Or.inl hn
  have hbefore : daysBeforeYear (400 * a + 100 * b + 4 * c + d + 1) = 146097 * a + 36524 * b + 1461 * c + 365 * d := by
    have h4 : (400 * a + 100 * b + 4 * c + d) / 4 = 100 * a + 25 * b + c := by omega
    have h100 : (400 * a + 100 * b + 4 * c + d) / 100 = 4 * a + b := by omega
    have h400 : (400 * a + 100 * b + 4 * c + d) / 400 = a := by omega
    simp only [daysBeforeYear, Nat.add_sub_cancel, h4, h100, h400]
    omega
  have h400 : (146097 * a + 36524 * b + 1461 * c + 365 * d + n) / 146097 = a := by omega
  have h400' : (146097 * a + 36524 * b + 1461 * c + 365 * d + n) % 146097 = 36524 * b + 1461 * c + 365 * d + n := by
    omega
  have h100 : min 3 ((36524 * b + 1461 * c + 365 * d + n) / 36524) = b := by omega
  have h100' : 36524 * b + 1461 * c + 365 * d + n - 36524 * b = 1461 * c + 365 * d + n := by omega
  have h4 : (1461 * c + 365 * d + n) / 1461 = c := by omega
  have h4' : (1461 * c + 365 * d + n) % 1461 = 365 * d + n := by omega
  have h1 : min 3 ((365 * d + n) / 365) = d := by omega
  simp only [yearOfDay, hbefore, h400, h400', h100, h100', h4, h4', h1, Nat.add_sub_cancel_left]

/-! ## Months -/

theorem monthOfDay_append {year m n : Nat} {after : List Nat} (hn : n < daysInMonth year m) (before : List Nat) :
    monthOfDay year (before ++ m :: after) ((before.map (daysInMonth year)).sum + n) = (m, n) := by
  induction before with
  | nil => simp [monthOfDay, hn]
  | cons m' before ih =>
    rw [List.map_cons, List.sum_cons, Nat.add_assoc, List.cons_append, monthOfDay, if_neg (by omega),
      Nat.add_sub_cancel_left, ih]

theorem months_eq {m : Nat} (hm : 1 ≤ m ∧ m ≤ 12) :
    List.range' 1 12 = List.range' 1 (m - 1) ++ m :: List.range' (m + 1) (12 - m) := by
  have hcount : (m - 1) + (12 - m + 1) = 12 := by omega
  have hthis : 1 + (m - 1) = m := by omega
  calc List.range' 1 12 = List.range' 1 ((m - 1) + (12 - m + 1)) := by rw [hcount]
    _ = List.range' 1 (m - 1) ++ List.range' (1 + (m - 1)) (12 - m + 1) := List.range'_append_1.symm
    _ = List.range' 1 (m - 1) ++ m :: List.range' (m + 1) (12 - m) := by rw [hthis, List.range'_succ]

theorem daysBeforeMonth_eq_sum (year m : Nat) :
    daysBeforeMonth year m = ((List.range' 1 (m - 1)).map (daysInMonth year)).sum := by
  rw [daysBeforeMonth, List.sum_eq_foldl, List.foldl_map]

theorem sum_daysInMonth (year : Nat) : ((List.range' 1 12).map (daysInMonth year)).sum = daysInYear year := by
  have hmonths : List.range' 1 12 = [1, 2, 3, 4, 5, 6, 7, 8, 9, 10, 11, 12] := rfl
  rw [hmonths, daysInYear]
  cases h : isLeap year <;> simp [daysInMonth, h]

theorem daysBeforeMonth_add_le (year : Nat) {m : Nat} (hm : 1 ≤ m ∧ m ≤ 12) :
    daysBeforeMonth year m + daysInMonth year m ≤ daysInYear year := by
  rw [daysBeforeMonth_eq_sum, ← sum_daysInMonth, months_eq hm, List.map_append, List.sum_append, List.map_cons,
    List.sum_cons]
  omega

/-! ## Dates -/

/-- **The day with the number of a date is that date.** -/
theorem ofOrdinal?_ordinal (d : Date) : ofOrdinal? d.ordinal = some d := by
  obtain ⟨hyear, -, hmonth, hmonth', hday, hday'⟩ := d.valid
  have hpositive : d.ordinal ≠ 0 := by
    rw [ordinal, dayOfYear]
    omega
  have hwithin := daysBeforeMonth_add_le d.year ⟨hmonth, hmonth'⟩
  have hordinal : d.ordinal - 1 = daysBeforeYear d.year + (daysBeforeMonth d.year d.month + (d.day - 1)) := by
    rw [ordinal, dayOfYear]
    omega
  have hmonthOf : monthOfDay d.year (List.range' 1 12) (daysBeforeMonth d.year d.month + (d.day - 1)) =
      (d.month, d.day - 1) := by
    rw [daysBeforeMonth_eq_sum, months_eq ⟨hmonth, hmonth'⟩]
    exact monthOfDay_append (by omega) _
  rw [ofOrdinal?, if_neg hpositive, hordinal, yearOfDay_daysBeforeYear hyear (by omega)]
  simp only [hmonthOf, Nat.sub_add_cancel hday]
  exact Iso.make?_date d

end Date

namespace Moment

theorem timeMicros_lt (m : Moment) : m.timeMicros < dayMicros := by
  obtain ⟨hhour, hminute, hsecond, hmicro⟩ := m.valid
  rw [timeMicros, dayMicros]
  omega

/-- **A moment is found by its microseconds.** -/
theorem ofMicros?_micros (m : Moment) : ofMicros? m.micros = some m := by
  obtain ⟨hhour, hminute, hsecond, hmicro⟩ := m.valid
  have hday : m.micros / dayMicros = m.date.ordinal := by
    rw [micros, Nat.mul_comm, Nat.mul_add_div (by decide), Nat.div_eq_of_lt m.timeMicros_lt, Nat.add_zero]
  have htime : m.micros % dayMicros = m.timeMicros := by
    rw [micros, Nat.mul_comm, Nat.mul_add_mod, Nat.mod_eq_of_lt m.timeMicros_lt]
  have hsecond' : m.timeMicros / 1000000 = (m.hour * 60 + m.minute) * 60 + m.second := by
    rw [timeMicros]
    omega
  have hmicro' : m.timeMicros % 1000000 = m.micro := by
    rw [timeMicros]
    omega
  have hh : ((m.hour * 60 + m.minute) * 60 + m.second) / 3600 = m.hour := by omega
  have hm : ((m.hour * 60 + m.minute) * 60 + m.second) / 60 % 60 = m.minute := by omega
  have hs : ((m.hour * 60 + m.minute) * 60 + m.second) % 60 = m.second := by omega
  simp only [ofMicros?, hday, htime, hsecond', hmicro', hh, hm, hs, Date.ofOrdinal?_ordinal, Option.bind_eq_bind,
    Option.bind_some]
  rw [make?, dif_pos m.valid]

/-- **A moment that is moved by nothing stays.** -/
theorem shift?_zero (m : Moment) : m.shift? 0 = some m := by
  rw [shift?, Int.add_zero, if_neg (Int.not_lt.2 (Int.natCast_nonneg _)), Int.toNat_natCast, ofMicros?_micros]

end Moment

theorem Stamp.utc?_zero (m : Moment) : Stamp.utc? ⟨m, some 0⟩ = some m :=
  m.shift?_zero

end TableQuery
