import Mathlib.Data.Nat.Digits.Defs
import TableQuery.Calendar.Iso
import TableQuery.Proofs.Text.Ascii

/-!
# Dates and points in time as texts

The numbers in the text of a date have a fixed number of digits, so that the text of every date has ten characters
(`Date.length_toText`). What stands before and after the time of day can be told apart by that; two moments without a
fraction of a second that are the same to the second are stored as the same text (`Moment.toStored_of_toSeconds`).

The text of a date or of a point in time is read as that date (`Iso.date?_toText`) and that point in time
(`Iso.stamp?_toText`), whatever ASCII character stands before the time, and so are the texts under which points in time
are stored (`Iso.stamp?_toStored`) and shown (`Iso.stamp?_toSeconds`).
-/

set_option autoImplicit false

namespace TableQuery

/-! ## Widths -/

theorem Text.length_padded {width n : Nat} (hwidth : 0 < width) (hn : n < 10 ^ width) :
    (padded width n).length = width := by
  have hdigits : (natDigits n).length ≤ width := Nat.toDigits_length 10 n width hwidth hn
  rw [padded, String.length_ofList, List.length_append, List.length_replicate]
  exact Nat.sub_add_cancel hdigits

namespace Date

theorem daysInMonth_le (year month : Nat) : daysInMonth year month ≤ 31 := by
  unfold daysInMonth
  split
  · split <;> decide
  · split <;> decide

/-- **The text of a date has ten characters.** -/
theorem length_toText (d : Date) : d.toText.length = 10 := by
  obtain ⟨-, hyear, -, hmonth, -, hday⟩ := d.valid
  have hdays := daysInMonth_le d.year d.month
  rw [toText, String.length_append, String.length_append, String.length_append, String.length_append,
    Text.length_padded (by decide) (by omega), Text.length_padded (by decide) (by omega),
    Text.length_padded (by decide) (by omega)]
  rfl

end Date

namespace Moment

/-- **Moments without a fraction of a second that are the same to the second are stored as the same text.** -/
theorem toStored_of_toSeconds {m m' : Moment} (hm : m.micro = 0) (hm' : m'.micro = 0)
    (h : m.toSeconds = m'.toSeconds) : m.toStored = m'.toStored := by
  have hchars : m.date.toText.toList ++ ("T" ++ m.timeText).toList =
      m'.date.toText.toList ++ ("T" ++ m'.timeText).toList := by
    rw [← String.toList_append, ← String.toList_append, ← String.append_assoc, ← String.append_assoc]
    exact congrArg String.toList h
  have hlength : m.date.toText.toList.length = m'.date.toText.toList.length := by
    rw [String.length_toList, String.length_toList, Date.length_toText, Date.length_toText]
  obtain ⟨hdate, htime⟩ := List.append_inj hchars hlength
  rw [String.toList_append, String.toList_append, List.append_cancel_left_eq] at htime
  rw [toStored, toStored, String.toList_inj.1 hdate, String.toList_inj.1 htime, hm, hm']

end Moment

/-! ## Reading what is written -/

namespace Iso

/-- The bytes of a number that fills a width. -/
def digitBytes (width n : Nat) : Bytes := (Text.padded width n).toList.map Char.toNat

variable {width n : Nat}

theorem length_digitBytes (hwidth : 0 < width) (hn : n < 10 ^ width) : (digitBytes width n).length = width := by
  rw [digitBytes, List.length_map, String.length_toList, Text.length_padded hwidth hn]

theorem isDigit_of_mem_padded {c : Char} (h : c ∈ (Text.padded width n).toList) : c.isDigit = true := by
  rw [Text.padded, String.toList_ofList, List.mem_append] at h
  rcases h with h | h
  · rw [List.eq_of_mem_replicate h]
    rfl
  · exact Nat.isDigit_of_mem_toDigits (by decide) (by decide) h

theorem bounds_of_isDigit {c : Char} (h : c.isDigit = true) : 48 ≤ c.toNat ∧ c.toNat ≤ 57 := by
  simp only [Char.isDigit, Bool.and_eq_true, decide_eq_true_eq] at h
  exact h

theorem isDigit_of_mem_digitBytes {b : Nat} (h : b ∈ digitBytes width n) : isDigit b = true := by
  obtain ⟨c, hc, rfl⟩ := List.mem_map.1 h
  obtain ⟨hlow, hhigh⟩ := bounds_of_isDigit (isDigit_of_mem_padded hc)
  rw [isDigit, Bool.and_eq_true, decide_eq_true_eq, decide_eq_true_eq]
  exact ⟨hlow, hhigh⟩

theorem ofDigits_digitBytes : Text.ofDigits 10 ((digitBytes width n).map (· - 48)) = n := by
  have hchars : ∀ cs : List Char,
      Text.ofDigits 10 ((cs.map Char.toNat).map (· - 48)) = Nat.ofDigitChars 10 cs 0 := by
    intro cs
    rw [Text.ofDigits, Nat.ofDigitChars_eq_foldl, List.map_map, List.foldl_map]
    rfl
  rw [digitBytes, hchars, Text.padded, String.toList_ofList, Nat.ofDigitChars_append, Nat.ofDigitChars_replicate_zero,
    Nat.mul_zero]
  exact Nat.ofDigitChars_ten_toDigits

/-- **A padded number is read.** -/
theorem number?_digitBytes (hwidth : 0 < width) (hn : n < 10 ^ width) (rest : Bytes) :
    number? width (digitBytes width n ++ rest) = some (n, rest) := by
  have hlength := length_digitBytes hwidth hn
  have htake : (digitBytes width n ++ rest).take width = digitBytes width n := by
    rw [List.take_append_of_le_length (by omega), List.take_of_length_le (by omega)]
  have hdrop : (digitBytes width n ++ rest).drop width = rest := by
    rw [List.drop_append_of_le_length (by omega), List.drop_of_length_le (by omega), List.nil_append]
  have hall : (digitBytes width n).all isDigit = true := List.all_eq_true.2 fun b hb => isDigit_of_mem_digitBytes hb
  rw [number?, htake, hdrop]
  simp only [hlength, hall, and_self, ↓reduceIte, ofDigits_digitBytes]

theorem digitBytes_append_ne_cons (hwidth : 0 < width) (hn : n < 10 ^ width) {rest r : Bytes} {b : Nat}
    (hb : isDigit b = false) : digitBytes width n ++ rest ≠ b :: r := by
  intro h
  have hlength := length_digitBytes hwidth hn
  cases hdigits : digitBytes width n with
  | nil =>
    rw [hdigits, List.length_nil] at hlength
    omega
  | cons d ds =>
    rw [hdigits, List.cons_append] at h
    obtain ⟨rfl, -⟩ := List.cons.inj h
    have hdigit : isDigit d = true := isDigit_of_mem_digitBytes (hdigits ▸ List.mem_cons_self)
    rw [hdigit] at hb
    cases hb

/-! ## Dates -/

def dateBytes (d : Date) : Bytes :=
  digitBytes 4 d.year ++ 45 :: (digitBytes 2 d.month ++ 45 :: digitBytes 2 d.day)

theorem date_bounds (d : Date) : d.year < 10 ^ 4 ∧ d.month < 10 ^ 2 ∧ d.day < 10 ^ 2 := by
  obtain ⟨-, hyear, -, hmonth, -, hday⟩ := d.valid
  have hdays := Date.daysInMonth_le d.year d.month
  omega

theorem length_dateBytes (d : Date) : (dateBytes d).length = 10 := by
  obtain ⟨hyear, hmonth, hday⟩ := date_bounds d
  simp only [dateBytes, List.length_append, List.length_cons, length_digitBytes (by decide : 0 < 4) hyear,
    length_digitBytes (by decide : 0 < 2) hmonth, length_digitBytes (by decide : 0 < 2) hday]

theorem make?_date (d : Date) : Date.make? d.year d.month d.day = some d := by
  rw [Date.make?, dif_pos d.valid]

/-- **A date that is written is read**, whatever stands after it. -/
theorem datePart?_dateBytes (d : Date) (len : Nat) (rest : Bytes) : datePart? len (dateBytes d ++ rest) = some d := by
  obtain ⟨hyear, hmonth, hday⟩ := date_bounds d
  have hbytes : dateBytes d ++ rest =
      digitBytes 4 d.year ++ 45 :: (digitBytes 2 d.month ++ 45 :: (digitBytes 2 d.day ++ rest)) := by
    simp [dateBytes]
  rw [hbytes, datePart?, number?_digitBytes (by decide) hyear]
  simp only [Option.bind_eq_bind, Option.bind_some, List.head?_cons, beq_self_eq_true, ↓reduceIte, List.drop_one,
    List.tail_cons]
  split
  next r hweek => exact absurd hweek (digitBytes_append_ne_cons (by decide) hmonth (by decide))
  next r _ =>
    rw [number?_digitBytes (by decide) hmonth, Option.bind_some]
    simp only [hyphen?, Option.bind_some, number?_digitBytes (by decide : 0 < 2) hday]
    exact make?_date d

theorem dateLength_dateBytes (d : Date) {rest : Bytes} : dateLength (dateBytes d ++ rest) = 10 := by
  obtain ⟨hyear, hmonth, -⟩ := date_bounds d
  have hfour : (digitBytes 4 d.year).length = 4 := length_digitBytes (by decide) hyear
  have hbytes : dateBytes d ++ rest =
      digitBytes 4 d.year ++ 45 :: (digitBytes 2 d.month ++ 45 :: (digitBytes 2 d.day ++ rest)) := by
    simp [dateBytes]
  have hlength : (dateBytes d ++ rest).length ≠ 7 := by
    rw [List.length_append, length_dateBytes]
    omega
  have hhyphen : (dateBytes d ++ rest)[4]? = some 45 := by
    rw [hbytes, List.getElem?_append_right (by omega), hfour]
    rfl
  have hweek : (dateBytes d ++ rest)[5]? ≠ some 87 := by
    rw [hbytes, List.getElem?_append_right (by omega), hfour, Nat.add_sub_cancel_left 4 1, List.getElem?_cons_succ]
    cases h : digitBytes 2 d.month ++ 45 :: (digitBytes 2 d.day ++ rest) with
    | nil => nofun
    | cons b r =>
      intro hb
      obtain rfl : b = 87 := Option.some.inj hb
      exact digitBytes_append_ne_cons (by decide) hmonth (by decide) h
  rw [dateLength, if_neg hlength, if_pos hhyphen, if_neg hweek]

/-! ## Times -/

/-- The bytes of the hours, minutes and seconds of a moment. -/
def clockBytes (m : Moment) : Bytes :=
  digitBytes 2 m.hour ++ 58 :: (digitBytes 2 m.minute ++ 58 :: digitBytes 2 m.second)

/-- The bytes of a time of day with six digits of fraction. -/
def fullBytes (m : Moment) : Bytes := clockBytes m ++ 46 :: digitBytes 6 m.micro

/-- The clock of a moment, and whether something follows it. -/
def clockOf (m : Moment) (more : Bool) : Clock := ⟨m.hour, m.minute, m.second, m.micro, more⟩

theorem length_clockBytes (m : Moment) : (clockBytes m).length = 8 := by
  obtain ⟨hhour, hminute, hsecond, -⟩ := m.valid
  simp only [clockBytes, List.length_append, List.length_cons, length_digitBytes (by decide : 0 < 2)
    (show m.hour < 10 ^ 2 by omega), length_digitBytes (by decide : 0 < 2) (show m.minute < 10 ^ 2 by omega),
    length_digitBytes (by decide : 0 < 2) (show m.second < 10 ^ 2 by omega)]

theorem length_fullBytes (m : Moment) : (fullBytes m).length = 15 := by
  rw [fullBytes, List.length_append, List.length_cons, length_clockBytes,
    length_digitBytes (by decide) m.valid.2.2.2]

theorem number?_field {n : Nat} (hn : n < 60) (rest : Bytes) : number? 2 (digitBytes 2 n ++ rest) = some (n, rest) :=
  number?_digitBytes (by decide) (by omega) rest

/-- **A time to the second is read**, whatever stands after it. -/
theorem clock?_clockBytes {m : Moment} (hmicro : m.micro = 0) (rest : Bytes) :
    clock? (clockBytes m ++ rest) 8 = some (clockOf m (rest.headD 0 != 0)) := by
  obtain ⟨hhour, hminute, hsecond, -⟩ := m.valid
  simp [clock?, clockBytes, fields?, number?_field (show m.hour < 60 by omega), number?_field hminute,
    number?_field hsecond, Clock.ofFields, clockOf, hmicro]

/-- **A time with a fraction is read.** -/
theorem clock?_fullBytes (m : Moment) : clock? (fullBytes m) 15 = some (clockOf m false) := by
  obtain ⟨hhour, hminute, hsecond, hmicro⟩ := m.valid
  have hfraction : number? 6 (digitBytes 6 m.micro) = some (m.micro, []) := by
    simpa using @number?_digitBytes 6 m.micro (by decide) hmicro []
  simp [clock?, fullBytes, clockBytes, fields?, fraction?, number?_field (show m.hour < 60 by omega),
    number?_field hminute, number?_field hsecond, hfraction, Clock.ofFields, clockOf]

theorem startsZone_of_mem_fullBytes {m : Moment} {b : Nat} (h : b ∈ fullBytes m) : startsZone b = false := by
  have hdigit : ∀ {b : Nat}, isDigit b = true → startsZone b = false := by
    intro b hb
    simp only [isDigit, Bool.and_eq_true, decide_eq_true_eq] at hb
    simp only [startsZone, Bool.or_eq_false_iff, beq_eq_false_iff_ne]
    omega
  simp only [fullBytes, clockBytes, List.mem_append, List.mem_cons, or_assoc] at h
  rcases h with h | rfl | h | rfl | h | rfl | h
  · exact hdigit (isDigit_of_mem_digitBytes h)
  · rfl
  · exact hdigit (isDigit_of_mem_digitBytes h)
  · rfl
  · exact hdigit (isDigit_of_mem_digitBytes h)
  · rfl
  · exact hdigit (isDigit_of_mem_digitBytes h)

theorem startsZone_of_mem_clockBytes {m : Moment} {b : Nat} (h : b ∈ clockBytes m) : startsZone b = false :=
  startsZone_of_mem_fullBytes (List.mem_append_left _ h)

theorem length_takeWhile_zone {bs rest : Bytes} (h : ∀ b ∈ bs, startsZone b = false)
    (hrest : rest.head?.all startsZone = true) : ((bs ++ rest).takeWhile (!startsZone ·)).length = bs.length := by
  have hnone : rest.takeWhile (!startsZone ·) = [] := by
    cases rest with
    | nil => rfl
    | cons b rest => exact List.takeWhile_cons_of_neg (by simpa using hrest)
  rw [List.takeWhile_append_of_pos fun b hb => by rw [h b hb]; rfl, hnone, List.append_nil]

/-- **A time with a fraction and without an offset is read.** -/
theorem time?_fullBytes (m : Moment) : time? (fullBytes m) = some (clockOf m false, none) := by
  have hstop := @length_takeWhile_zone (fullBytes m) [] (fun b hb => startsZone_of_mem_fullBytes hb) rfl
  have hrest : (fullBytes m).drop 15 = [] := List.drop_of_length_le (length_fullBytes m).le
  rw [List.append_nil, length_fullBytes] at hstop
  simp only [time?, hstop, clock?_fullBytes, hrest, Option.bind_eq_bind, Option.bind_some, clockOf, Bool.false_eq_true,
    ↓reduceIte]

/-- **A time to the second is read**, with an offset of nothing or without an offset. -/
theorem time?_clockBytes {m : Moment} (hmicro : m.micro = 0) :
    time? (clockBytes m) = some (clockOf m false, none) ∧
      time? (clockBytes m ++ [43, 48, 48, 58, 48, 48]) = some (clockOf m true, some 0) := by
  have hstop : ∀ rest : Bytes, rest.head?.all startsZone = true →
      ((clockBytes m ++ rest).takeWhile (!startsZone ·)).length = 8 := fun rest hrest => by
    rw [length_takeWhile_zone (fun b hb => startsZone_of_mem_clockBytes hb) hrest, length_clockBytes]
  have hdrop : ∀ rest : Bytes, (clockBytes m ++ rest).drop 8 = rest := fun rest => by
    rw [← length_clockBytes m, List.drop_left]
  have hoffset : offset? false [48, 48, 58, 48, 48] = some 0 := by decide
  constructor
  · rw [← List.append_nil (clockBytes m)]
    simp only [time?, hstop [] rfl, clock?_clockBytes hmicro, hdrop, Option.bind_eq_bind, Option.bind_some]
    rfl
  · simp only [time?, hstop [43, 48, 48, 58, 48, 48] rfl, clock?_clockBytes hmicro, hdrop, Option.bind_eq_bind,
      Option.bind_some]
    simp [hoffset]

/-! ## Bytes of texts -/

theorem bytes_append (s t : String) : bytes (s ++ t) = bytes s ++ bytes t := by
  simp [bytes, Text.toList_eq_data, String.toUTF8_eq_toByteArray, String.toByteArray_append]

theorem bytes_ascii {s : String} (h : ∀ c ∈ s.toList, Text.isAscii c) : bytes s = s.toList.map Char.toNat := by
  rw [← Text.utf8Bytes_ascii h, String.ofList_toList]
  rfl

theorem bytes_padded (width n : Nat) : bytes (Text.padded width n) = digitBytes width n := by
  refine bytes_ascii fun c hc => ?_
  have := bounds_of_isDigit (isDigit_of_mem_padded hc)
  show c.toNat < 128
  omega

theorem bytes_date (d : Date) : bytes d.toText = dateBytes d := by
  have hhyphen : bytes "-" = [45] := by decide +kernel
  simp [Date.toText, bytes_append, bytes_padded, hhyphen, dateBytes]

theorem bytes_timeText (m : Moment) : bytes m.timeText = clockBytes m := by
  have hcolon : bytes ":" = [58] := by decide +kernel
  simp [Moment.timeText, bytes_append, bytes_padded, hcolon, clockBytes]

/-! ## Texts of dates and of points in time -/

/-- **A date that is written is read.** -/
theorem date?_toText (d : Date) : date? d.toText = some d := by
  have hread := datePart?_dateBytes d 10 []
  rw [List.append_nil] at hread
  rw [date?, bytes_date, length_dateBytes]
  exact hread

/-- A date and a time with one ASCII character between them are read. -/
theorem stamp?_of_time? {s : String} {m : Moment} {c : Char} {bs : Bytes} {more : Bool} {offset : Option Int}
    (hc : Text.isAscii c) (h : bytes s = dateBytes m.date ++ c.toNat :: bs)
    (htime : time? bs = some (clockOf m more, offset)) : stamp? s = some ⟨m, offset⟩ := by
  have hlength : ¬ (dateBytes m.date ++ c.toNat :: bs).length < 7 := by
    rw [List.length_append, length_dateBytes]
    omega
  have hdrop : (dateBytes m.date ++ c.toNat :: bs).drop 10 = c.toNat :: bs := by
    rw [← length_dateBytes m.date, List.drop_left]
  have hone : charLength c.toNat = 1 := if_pos hc
  have hmake : Moment.make? m.date m.hour m.minute m.second m.micro = some m := by
    rw [Moment.make?, dif_pos m.valid]
  rw [stamp?, h]
  simp only [hlength, ↓reduceIte, dateLength_dateBytes, datePart?_dateBytes, hdrop, hone, List.drop_one, List.tail_cons,
    htime, clockOf, hmake, Option.bind_eq_bind, Option.bind_some]

/-- **A point in time that is written is read.** -/
theorem stamp?_toText (m : Moment) {c : Char} (hc : Text.isAscii c) :
    stamp? (m.toText c.toString) = some ⟨m, none⟩ := by
  have hbetween : bytes c.toString = [c.toNat] := by
    rw [bytes_ascii] <;> simp [hc]
  have hpoint : bytes "." = [46] := by decide +kernel
  by_cases hmicro : m.micro = 0
  · refine stamp?_of_time? hc ?_ (time?_clockBytes hmicro).1
    rw [Moment.toText, Moment.fractionText, if_pos hmicro, String.append_empty, bytes_append, bytes_append, bytes_date,
      hbetween, bytes_timeText, List.append_assoc, List.singleton_append]
  · refine stamp?_of_time? hc ?_ (time?_fullBytes m)
    rw [Moment.toText, Moment.fractionText, if_neg hmicro, bytes_append, bytes_append, bytes_append, bytes_append,
      bytes_date, hbetween, bytes_timeText, hpoint, bytes_padded, fullBytes, List.append_assoc, List.append_assoc,
      List.singleton_append, List.singleton_append]

/-- **A point in time that is stored is read.** -/
theorem stamp?_toStored (m : Moment) : stamp? m.toStored = some ⟨m, none⟩ := by
  have hblank : bytes " " = [32] := by decide +kernel
  have hpoint : bytes "." = [46] := by decide +kernel
  refine @stamp?_of_time? _ m ' ' _ _ _ (by decide) ?_ (time?_fullBytes m)
  simp [Moment.toStored, bytes_append, bytes_date, bytes_timeText, bytes_padded, hblank, hpoint, fullBytes]

/-- **A point in universal time to the second is read.** -/
theorem stamp?_toSeconds {m : Moment} (hmicro : m.micro = 0) :
    stamp? (m.toSeconds ++ "+00:00") = some ⟨m, some 0⟩ := by
  have hbetween : bytes "T" = [84] := by decide +kernel
  have hoffset : bytes "+00:00" = [43, 48, 48, 58, 48, 48] := by decide +kernel
  refine @stamp?_of_time? _ m 'T' _ _ _ (by decide) ?_ (time?_clockBytes hmicro).2
  simp [Moment.toSeconds, bytes_append, bytes_date, bytes_timeText, hbetween, hoffset]

end Iso

end TableQuery
