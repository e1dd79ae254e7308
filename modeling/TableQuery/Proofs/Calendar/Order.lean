import TableQuery.Proofs.Calendar.Days
import TableQuery.Proofs.Calendar.Written
import TableQuery.Sql.Value

/-!
# Dates and points in time in order

Texts of the same length that stand for numbers may be in the order of these (`Text.Ranked`). One after the other they
are in the order of the numbers that they are the digits of, in whatever base (`Text.Ranked.append`): this goes for
digits (`Text.ranked_digits`), for numbers of a width (`Text.ranked_padded`), and for all that is put together of such.
Digits are the number that they write, filled up to their width (`Text.exists_eq_padded`).

The numbers of days are in the order of years, months and days (`Date.ordinal_lt_of_digits_lt`), and so are the texts of
dates, whose numbers have fixed widths (`Date.ranked_toText`). The texts under which points in time are stored are in
the order of these (`Moment.ranked_toStored`).
-/

set_option autoImplicit false

namespace TableQuery

namespace Text

variable {s t s' t' cs ds : List Char} {a b a' b' base width : Nat}

/-! ## Numbers in a base -/

theorem base_mul_add_lt (ha : a' < base) (hb : b' < base) :
    base * a + a' < base * b + b' ↔ a < b ∨ a = b ∧ a' < b' := by
  rcases Nat.lt_trichotomy a b with hab | rfl | hab
  · have := Nat.mul_le_mul_left base (Nat.succ_le_of_lt hab)
    rw [Nat.mul_succ] at this
    omega
  · omega
  · have := Nat.mul_le_mul_left base (Nat.succ_le_of_lt hab)
    rw [Nat.mul_succ] at this
    omega

theorem base_mul_add_inj (ha : a' < base) (hb : b' < base) :
    base * a + a' = base * b + b' ↔ a = b ∧ a' = b' := by
  constructor
  · intro h
    have hlt := (base_mul_add_lt (a := a) (b := b) ha hb).not.1 (by omega)
    have hgt := (base_mul_add_lt (a := b) (b := a) hb ha).not.1 (by omega)
    omega
  · rintro ⟨rfl, rfl⟩
    rfl

/-! ## Texts in order -/

theorem append_lt_append_iff (h : s.length = t.length) : s ++ s' < t ++ t' ↔ s < t ∨ s = t ∧ s' < t' := by
  induction s generalizing t with
  | nil =>
    obtain rfl := List.length_eq_zero_iff.1 h.symm
    simp
  | cons c s ih =>
    cases t with
    | nil => cases h
    | cons d t =>
      rw [List.cons_append, List.cons_append, List.cons_lt_cons_iff, List.cons_lt_cons_iff, ih (Nat.succ.inj h),
        List.cons.injEq]
      tauto

/-- Two texts of one length are in the order of two numbers. -/
structure Ranked (s t : List Char) (a b : Nat) : Prop where
  length_eq : s.length = t.length
  lt_iff : s < t ↔ a < b
  eq_iff : s = t ↔ a = b

namespace Ranked

theorem congr (h : Ranked s t a b) (hlt : a < b ↔ a' < b') (heq : a = b ↔ a' = b') : Ranked s t a' b' :=
  ⟨h.length_eq, h.lt_iff.trans hlt, h.eq_iff.trans heq⟩

/-- **Texts one after the other** are in the order of the numbers whose digits they stand for. -/
theorem append (h : Ranked s t a b) (h' : Ranked s' t' a' b') (ha : a' < base) (hb : b' < base) :
    Ranked (s ++ s') (t ++ t') (base * a + a') (base * b + b') where
  length_eq := by rw [List.length_append, List.length_append, h.length_eq, h'.length_eq]
  lt_iff := by rw [append_lt_append_iff h.length_eq, base_mul_add_lt ha hb, h.lt_iff, h.eq_iff, h'.lt_iff]
  eq_iff := by
    rw [base_mul_add_inj ha hb, ← h.eq_iff, ← h'.eq_iff]
    exact ⟨fun heq => List.append_inj heq h.length_eq, fun heq => by rw [heq.1, heq.2]⟩

theorem self (s : List Char) : Ranked s s 0 0 :=
  ⟨rfl, iff_of_false (List.lt_irrefl s) (Nat.lt_irrefl 0), iff_of_true rfl rfl⟩

theorem append_self (h : Ranked s t a b) (s' : List Char) : Ranked (s ++ s') (t ++ s') a b := by
  have hboth : Ranked (s ++ s') (t ++ s') (1 * a + 0) (1 * b + 0) := h.append (self s') Nat.one_pos Nat.one_pos
  simpa using hboth

end Ranked

/-! ## Digits -/

def digitsValue (cs : List Char) : Nat := Nat.ofDigitChars 10 cs 0

theorem digitsValue_cons (c : Char) (cs : List Char) :
    digitsValue (c :: cs) = 10 ^ cs.length * (c.toNat - 48) + digitsValue cs := by
  rw [digitsValue, Nat.ofDigitChars_cons, Nat.ofDigitChars_eq_ofDigitChars_zero]
  simp [digitsValue]

theorem digitsValue_lt (h : ∀ c ∈ cs, c.isDigit = true) : digitsValue cs < 10 ^ cs.length := by
  induction cs with
  | nil => decide
  | cons c cs ih =>
    obtain ⟨hc, hcs⟩ := List.forall_mem_cons.1 h
    have hlt := ih hcs
    have hnine : c.toNat - 48 ≤ 9 := by
      have := Iso.bounds_of_isDigit hc
      omega
    have hdigit := Nat.mul_le_mul_left (10 ^ cs.length) hnine
    rw [digitsValue_cons, List.length_cons, Nat.pow_succ]
    omega

theorem ranked_digit {c d : Char} (hc : c.isDigit = true) (hd : d.isDigit = true) :
    Ranked [c] [d] (c.toNat - 48) (d.toNat - 48) := by
  have hc := Iso.bounds_of_isDigit hc
  have hd := Iso.bounds_of_isDigit hd
  refine ⟨rfl, ?_, ?_⟩
  · have hlt : c < d ↔ c.toNat < d.toNat := Iff.rfl
    rw [List.cons_lt_cons_iff, hlt]
    simp only [List.lt_irrefl, and_false, or_false]
    omega
  · rw [List.cons.injEq, ← Char.toNat_inj]
    simp only [and_true]
    omega

/-- **Digits are in the order of the numbers that they write.** -/
theorem ranked_digits (hlength : cs.length = ds.length) (hcs : ∀ c ∈ cs, c.isDigit = true)
    (hds : ∀ d ∈ ds, d.isDigit = true) : Ranked cs ds (digitsValue cs) (digitsValue ds) := by
  induction cs generalizing ds with
  | nil =>
    obtain rfl := List.length_eq_zero_iff.1 hlength.symm
    exact Ranked.self []
  | cons c cs ih =>
    cases ds with
    | nil => cases hlength
    | cons d ds =>
      obtain ⟨hc, hcs⟩ := List.forall_mem_cons.1 hcs
      obtain ⟨hd, hds⟩ := List.forall_mem_cons.1 hds
      have hlength : cs.length = ds.length := Nat.succ.inj hlength
      rw [digitsValue_cons, digitsValue_cons, ← hlength]
      exact (ranked_digit hc hd).append (ih hlength hcs hds) (digitsValue_lt hcs) (hlength ▸ digitsValue_lt hds)

theorem digitsValue_padded (width n : Nat) : digitsValue (padded width n).toList = n := by
  rw [digitsValue, padded, String.toList_ofList, Nat.ofDigitChars_append, Nat.ofDigitChars_replicate_zero, Nat.mul_zero]
  exact Nat.ofDigitChars_ten_toDigits

theorem length_toList_padded (hwidth : 0 < width) (ha : a < 10 ^ width) : (padded width a).toList.length = width := by
  rw [String.length_toList, length_padded hwidth ha]

/-- **Numbers that fill a width are in the order of their texts.** -/
theorem ranked_padded (hwidth : 0 < width) (ha : a < 10 ^ width) (hb : b < 10 ^ width) :
    Ranked (padded width a).toList (padded width b).toList a b := by
  have hlength : (padded width a).toList.length = (padded width b).toList.length := by
    rw [length_toList_padded hwidth ha, length_toList_padded hwidth hb]
  have h := ranked_digits hlength (fun c hc => Iso.isDigit_of_mem_padded hc) fun d hd => Iso.isDigit_of_mem_padded hd
  rwa [digitsValue_padded, digitsValue_padded] at h

/-- **Digits are the number that they write, filled up to their width.** -/
theorem exists_eq_padded (hwidth : 0 < width) (hlength : cs.length = width) (h : ∀ c ∈ cs, c.isDigit = true) :
    ∃ n, n < 10 ^ width ∧ cs = (padded width n).toList := by
  have hlt : digitsValue cs < 10 ^ width := hlength ▸ digitsValue_lt h
  have hfilled : cs.length = (padded width (digitsValue cs)).toList.length := by
    rw [hlength, length_toList_padded hwidth hlt]
  have hsame := ranked_digits hfilled h fun d hd => Iso.isDigit_of_mem_padded hd
  exact ⟨digitsValue cs, hlt, hsame.eq_iff.2 (digitsValue_padded _ _).symm⟩

end Text

open Text (Ranked padded)

namespace Date

/-! ## Numbers of days -/

theorem succ_div_eq (n k : Nat) : (n + 1) / k = n / k + if (n + 1) % k = 0 then 1 else 0 := by
  simp only [Nat.succ_div, Nat.dvd_iff_mod_eq_zero]

theorem daysBeforeYear_succ {year : Nat} (hyear : 1 ≤ year) :
    daysBeforeYear (year + 1) = daysBeforeYear year + daysInYear year := by
  obtain ⟨y, rfl⟩ : ∃ y, year = y + 1 := ⟨year - 1, by omega⟩
  have hcenturies : y / 100 ≤ y / 4 := Nat.div_le_div_left (by decide) (by decide)
  have hfour : (y + 1) % 100 = 0 → (y + 1) % 4 = 0 := by omega
  have hcentury : (y + 1) % 400 = 0 → (y + 1) % 100 = 0 := by omega
  simp only [daysBeforeYear, daysInYear, Nat.add_sub_cancel, isLeap_iff, succ_div_eq y 4, succ_div_eq y 100,
    succ_div_eq y 400]
  generalize (y + 1) % 4 = r4, (y + 1) % 100 = r100, (y + 1) % 400 = r400, y / 4 = q4, y / 100 = q100,
    y / 400 = q400 at *
  split_ifs <;> omega

theorem daysBeforeYear_add_le {year year' : Nat} (hyear : 1 ≤ year) (h : year < year') :
    daysBeforeYear year + daysInYear year ≤ daysBeforeYear year' := by
  rw [← daysBeforeYear_succ hyear]
  induction year', h using Nat.le_induction with
  | base => exact Nat.le_refl _
  | succ n hn ih => exact ih.trans (daysBeforeYear_succ (show 1 ≤ n by omega) ▸ Nat.le_add_right _ _)

theorem daysBeforeMonth_succ (year : Nat) {month : Nat} (hmonth : 1 ≤ month) :
    daysBeforeMonth year (month + 1) = daysBeforeMonth year month + daysInMonth year month := by
  obtain ⟨m, rfl⟩ : ∃ m, month = m + 1 := ⟨month - 1, by omega⟩
  rw [daysBeforeMonth, daysBeforeMonth, Nat.add_sub_cancel, Nat.add_sub_cancel, List.range'_concat, List.foldl_append]
  simp [Nat.add_comm]

theorem daysBeforeMonth_add_le_of_lt (year : Nat) {month month' : Nat} (hmonth : 1 ≤ month) (h : month < month') :
    daysBeforeMonth year month + daysInMonth year month ≤ daysBeforeMonth year month' := by
  rw [← daysBeforeMonth_succ year hmonth]
  induction month', h using Nat.le_induction with
  | base => exact Nat.le_refl _
  | succ n hn ih => exact ih.trans (daysBeforeMonth_succ year (show 1 ≤ n by omega) ▸ Nat.le_add_right _ _)

/-- The number that the digits of a date write. -/
def digits (d : Date) : Nat := 10 ^ 2 * (10 ^ 2 * d.year + d.month) + d.day

/-- **A date that is written before another one is before it.** -/
theorem ordinal_lt_of_digits_lt {d e : Date} (h : d.digits < e.digits) : d.ordinal < e.ordinal := by
  obtain ⟨-, hmonth, hday⟩ := Iso.date_bounds d
  obtain ⟨-, hmonth', hday'⟩ := Iso.date_bounds e
  obtain ⟨hyear, -, hfirst, hlast, -, hin⟩ := d.valid
  obtain ⟨-, -, -, -, hone, -⟩ := e.valid
  have hwithin := daysBeforeMonth_add_le d.year ⟨hfirst, hlast⟩
  rw [digits, digits, Text.base_mul_add_lt hday hday', Text.base_mul_add_lt hmonth hmonth',
    Text.base_mul_add_inj hmonth hmonth'] at h
  rw [ordinal, ordinal, dayOfYear, dayOfYear]
  rcases h with (hyears | ⟨hyears, hmonths⟩) | ⟨⟨hyears, hmonths⟩, hdays⟩
  · have := daysBeforeYear_add_le hyear hyears
    omega
  · have := daysBeforeMonth_add_le_of_lt d.year hfirst hmonths
    rw [← hyears]
    omega
  · rw [← hyears, ← hmonths]
    omega

theorem digits_inj {d e : Date} : d.digits = e.digits ↔ d = e := by
  obtain ⟨-, hmonth, hday⟩ := Iso.date_bounds d
  obtain ⟨-, hmonth', hday'⟩ := Iso.date_bounds e
  rw [digits, digits, Text.base_mul_add_inj hday hday', Text.base_mul_add_inj hmonth hmonth', and_assoc, Date.mk.injEq]

theorem digits_eq_iff {d e : Date} : d.digits = e.digits ↔ d.ordinal = e.ordinal := by
  rw [digits_inj]
  refine ⟨fun h => by rw [h], fun h => ?_⟩
  rw [← Option.some_inj, ← ofOrdinal?_ordinal d, ← ofOrdinal?_ordinal e, h]

/-- **A date is before another one iff it is written before it.** -/
theorem digits_lt_iff {d e : Date} : d.digits < e.digits ↔ d.ordinal < e.ordinal := by
  refine ⟨ordinal_lt_of_digits_lt, fun h => ?_⟩
  rcases Nat.lt_trichotomy d.digits e.digits with hlt | heq | hgt
  · exact hlt
  · exact absurd (digits_eq_iff.1 heq) (Nat.ne_of_lt h)
  · exact absurd (ordinal_lt_of_digits_lt hgt) (Nat.not_lt_of_lt h)

/-! ## Texts -/

/-- **The texts of dates are in the order of the dates.** -/
theorem ranked_toText (d e : Date) : Ranked d.toText.toList e.toText.toList d.ordinal e.ordinal := by
  obtain ⟨hyear, hmonth, hday⟩ := Iso.date_bounds d
  obtain ⟨hyear', hmonth', hday'⟩ := Iso.date_bounds e
  have hyears := Text.ranked_padded (by decide : 0 < 4) hyear hyear'
  have hmonths := Text.ranked_padded (by decide : 0 < 2) hmonth hmonth'
  have hdays := Text.ranked_padded (by decide : 0 < 2) hday hday'
  have h := (((hyears.append_self ['-']).append hmonths hmonth hmonth').append_self ['-']).append hdays hday hday'
  simp only [toText, String.toList_append]
  exact h.congr digits_lt_iff digits_eq_iff

end Date

namespace Moment

/-- **The texts under which points in time are stored are in their order.** -/
theorem ranked_toStored (m n : Moment) : Ranked m.toStored.toList n.toStored.toList m.micros n.micros := by
  obtain ⟨hhour, hminute, hsecond, hmicro⟩ := m.valid
  obtain ⟨hhour', hminute', hsecond', hmicro'⟩ := n.valid
  have htwo : ∀ {a b : Nat}, a < 60 → b < 60 → Ranked (padded 2 a).toList (padded 2 b).toList a b :=
    fun ha hb => Text.ranked_padded (by decide) (by omega) (by omega)
  have hmicros := Text.ranked_padded (by decide : 0 < 6) hmicro hmicro'
  have h := (((((((Date.ranked_toText m.date n.date).append_self [' ']).append
    (htwo (by omega) (by omega)) hhour hhour').append_self [':']).append (htwo hminute hminute') hminute
      hminute').append_self [':']).append (htwo hsecond hsecond') hsecond hsecond').append_self ['.'] |>.append hmicros
        hmicro hmicro'
  have htotal : ∀ m : Moment,
      1000000 * (60 * (60 * (24 * m.date.ordinal + m.hour) + m.minute) + m.second) + m.micro = m.micros := by
    intro m
    rw [micros, timeMicros, dayMicros]
    omega
  rw [htotal, htotal] at h
  simpa [toStored, timeText] using h

end Moment

namespace Sql.Value

theorem compare_of_ranked {s t : String} {a b : Nat} (h : Ranked s.toList t.toList a b) :
    (text s).compare (text t) = Ord.compare a b := by
  have hlt : s < t ↔ a < b := String.lt_iff.trans h.lt_iff
  have heq : s = t ↔ a = b := String.toList_inj.symm.trans h.eq_iff
  show compareOfLessAndEq s t = compareOfLessAndEq a b
  simp only [compareOfLessAndEq, hlt, heq]

end Sql.Value

end TableQuery
