import Mathlib.Algebra.Order.Field.Rat
import Mathlib.Tactic.Ring
import TableQuery.Proofs.Calendar.Days
import TableQuery.Proofs.Calendar.Strict

/-!
# Spellings of points in time

A point in universal time may be spelled in several ways: without seconds, with seconds, and with three or six digits of
fraction, each with one of two marks of universal time (`Spelling.text`). A spelling is read as the point in time with
the numbers that it has (`Iso.stamp?_front`), and what is read of characters that stand where a spelling has them is
spelled by them (`Iso.exists_of_stamp?`).
-/

set_option autoImplicit false

namespace TableQuery

open Text (padded)

/-! ## Spellings -/

/-- What stands after the minutes: nothing, seconds, or seconds with thousandths or millionths. -/
inductive Seconds where
  | none
  | whole (second : Nat)
  | thousandths (second fraction : Nat)
  | millionths (second fraction : Nat)

namespace Seconds

/-- The seconds as they are written after the minutes. -/
def text : Seconds → String
  | none => ""
  | whole s => ":" ++ padded 2 s
  | thousandths s f => ":" ++ padded 2 s ++ "." ++ padded 3 f
  | millionths s f => ":" ++ padded 2 s ++ "." ++ padded 6 f

def second : Seconds → Nat
  | none => 0
  | whole s | thousandths s _ | millionths s _ => s

/-- The number of microseconds after the whole seconds. -/
def micro : Seconds → Nat
  | none | whole _ => 0
  | thousandths _ f => f * 1000
  | millionths _ f => f

/-- How long the seconds and their fraction last, in seconds. -/
def duration : Seconds → ℚ
  | none => 0
  | whole s => s
  | thousandths s f => s + f / 1000
  | millionths s f => s + f / 1000000

def bytes : Seconds → Iso.Bytes
  | none => []
  | whole s => 58 :: Iso.digitBytes 2 s
  | thousandths s f => 58 :: (Iso.digitBytes 2 s ++ 46 :: Iso.digitBytes 3 f)
  | millionths s f => 58 :: (Iso.digitBytes 2 s ++ 46 :: Iso.digitBytes 6 f)

end Seconds

/-- The mark of universal time: a letter, or an offset of nothing. -/
def universalMark (zulu : Bool) : String := if zulu then "Z" else "+00:00"

/-- A date and a time of day in universal time, as they are written. -/
structure Spelling where
  date : Date
  hour : Nat
  minute : Nat
  seconds : Seconds
  /-- Whether universal time is marked with the letter. -/
  zulu : Bool
  valid : ValidTime hour minute seconds.second seconds.micro

namespace Spelling

/-- A time of day without the mark of universal time. -/
def clockText (hour minute : Nat) (seconds : Seconds) : String :=
  padded 2 hour ++ ":" ++ padded 2 minute ++ seconds.text

/-- What is written before the mark of universal time. -/
def front (p : Spelling) : String :=
  p.date.toText ++ "T" ++ clockText p.hour p.minute p.seconds

def text (p : Spelling) : String :=
  p.front ++ universalMark p.zulu

/-- The point in time with the fields that are written, what is missing being zero. -/
def moment (p : Spelling) : Moment :=
  ⟨p.date, p.hour, p.minute, p.seconds.second, p.seconds.micro, p.valid⟩

/-- The instant that is written, in seconds since the start of day 0. -/
def instant (p : Spelling) : ℚ :=
  p.date.ordinal * 86400 + p.hour * 3600 + p.minute * 60 + p.seconds.duration

end Spelling

namespace Iso

variable {left stop n : Nat} {colons : Option Bool} {fields : List Nat} {r rest : Bytes} {cs : List Char} {c : Clock}

/-! ## Fields of a clock -/

/-- A field before a colon is read, and the ones after it are. -/
theorem fields?_colon (hn : n < 10 ^ 2) (hstop : 3 < stop) (hcolons : colons.getD true = true) :
    fields? (left + 1) colons fields (digitBytes 2 n ++ 58 :: r) stop =
      fields? left (some true) (fields ++ [n]) r (stop - 3) := by
  rw [fields?, number?_digitBytes (by decide) hn]
  simp [hcolons, Nat.not_le_of_lt hstop]

theorem fields?_last (hn : n < 10 ^ 2) (hstop : stop ≤ 3) :
    fields? (left + 1) colons fields (digitBytes 2 n ++ 43 :: r) stop = some (.ofFields (fields ++ [n]) 0 true) := by
  rw [fields?, number?_digitBytes (by decide) hn]
  simp [hstop]

/-- A field before a point is read, and then the fraction is. -/
theorem fields?_point (hn : n < 10 ^ 2) (hstop : 3 < stop) :
    fields? (left + 1) colons fields (digitBytes 2 n ++ 46 :: r) stop =
      fraction? (fields ++ [n]) r (stop - 3) := by
  rw [fields?, number?_digitBytes (by decide) hn]
  simp [Nat.not_le_of_lt hstop]

/-- A fraction of no more than six digits is read. -/
theorem fraction?_digits {width : Nat} (hwidth : 0 < width) (hsix : width ≤ 6) (hn : n < 10 ^ width) :
    fraction? fields (digitBytes width n ++ 43 :: r) width =
      some (.ofFields fields (n * 10 ^ (6 - width)) true) := by
  rw [fraction?, Nat.min_eq_left hsix, number?_digitBytes hwidth hn]
  simp [isDigit]

/-- A field that is read is written in digits. -/
theorem exists_padded_of_fields? (hlength : cs.length = 2)
    (h : fields? (left + 1) colons fields (charBytes cs ++ rest) stop = some c) :
    ∃ n, n < 10 ^ 2 ∧ cs = (padded 2 n).toList := by
  rw [fields?] at h
  obtain ⟨⟨n, r⟩, hn, -⟩ := Option.bind_eq_some_iff.1 h
  obtain ⟨hlt, hcs, -⟩ := exists_padded_of_number? (by decide) hlength hn
  exact ⟨n, hlt, hcs⟩

theorem length_le_charBytes (cs : List Char) : cs.length ≤ (charBytes cs).length := by
  rw [charBytes, bytes, List.length_map, Text.length_toUTF8, String.toList_ofList]
  exact Text.length_le_utf8Len cs

/-- A fraction that is read is written in digits. -/
theorem exists_padded_of_fraction? {width : Nat} (hwidth : 0 < width) (hsix : width ≤ 6) (hlength : cs.length = width)
    (h : fraction? fields (charBytes cs ++ rest) (charBytes cs).length = some c) :
    ∃ n, n < 10 ^ width ∧ cs = (padded width n).toList := by
  rw [fraction?] at h
  obtain ⟨⟨n, r⟩, hn, -⟩ := Option.bind_eq_some_iff.1 h
  -- There are at least as many bytes as characters, and six digits are never too few.
  have hplaces : cs.length ≤ min (charBytes cs).length 6 := Nat.le_min.2 ⟨length_le_charBytes cs, hlength ▸ hsix⟩
  exact Text.exists_eq_padded hwidth hlength (isDigit_of_number? hn hplaces)

/-! ## Clocks -/

def spelledBytes (hour minute : Nat) (seconds : Seconds) : Bytes :=
  digitBytes 2 hour ++ 58 :: (digitBytes 2 minute ++ seconds.bytes)

theorem bytes_clockText (hour minute : Nat) (seconds : Seconds) :
    bytes (Spelling.clockText hour minute seconds) = spelledBytes hour minute seconds := by
  have hcolon : bytes ":" = [58] := by decide +kernel
  have hpoint : bytes "." = [46] := by decide +kernel
  cases seconds <;> simp [Spelling.clockText, Seconds.text, Seconds.bytes, spelledBytes, bytes_append, bytes_padded,
    hcolon, hpoint]

/-- Minutes, and seconds with some digits of fraction, are read after the hour. -/
theorem fields?_fraction {hour minute second fraction width : Nat} (hminute : minute < 10 ^ 2)
    (hsecond : second < 10 ^ 2) (hwidth : 0 < width) (hsix : width ≤ 6) (hfraction : fraction < 10 ^ width)
    (hstop : stop = width + 6) (r : Bytes) :
    fields? 2 (some true) [hour] (digitBytes 2 minute ++ 58 :: (digitBytes 2 second ++
      46 :: (digitBytes width fraction ++ 43 :: r))) stop =
        some ⟨hour, minute, second, fraction * 10 ^ (6 - width), true⟩ := by
  have hrest : stop - 3 - 3 = width := by omega
  rw [fields?_colon hminute (by omega) rfl, fields?_point hsecond (by omega), hrest,
    fraction?_digits hwidth hsix hfraction]
  rfl

/-- **A time of day is read**, whatever is left out of it. -/
theorem clock?_spelledBytes {hour minute : Nat} {seconds : Seconds} (hhour : hour < 10 ^ 2) (hminute : minute < 10 ^ 2)
    (hsecond : seconds.second < 10 ^ 2) (hmicro : seconds.micro < 10 ^ 6) (r : Bytes) :
    clock? (spelledBytes hour minute seconds ++ 43 :: r) (spelledBytes hour minute seconds).length =
      some ⟨hour, minute, seconds.second, seconds.micro, true⟩ := by
  have htwo : ∀ {n : Nat}, n < 10 ^ 2 → (digitBytes 2 n).length = 2 := fun hn => length_digitBytes (by decide) hn
  have hbytes : spelledBytes hour minute seconds ++ 43 :: r =
      digitBytes 2 hour ++ 58 :: (digitBytes 2 minute ++ (seconds.bytes ++ 43 :: r)) := by
    simp [spelledBytes]
  have hlength : (spelledBytes hour minute seconds).length - 3 = seconds.bytes.length + 2 := by
    rw [spelledBytes, List.length_append, List.length_cons, List.length_append, htwo hhour, htwo hminute]
    omega
  rw [hbytes, clock?, fields?_colon hhour (by omega) rfl, hlength]
  cases seconds with
  | none => exact fields?_last hminute (by decide)
  | whole s =>
    have hsecond : s < 10 ^ 2 := hsecond
    have hstop : (58 :: digitBytes 2 s).length + 2 = 5 := by rw [List.length_cons, htwo hsecond]
    rw [Seconds.bytes, hstop, List.cons_append, fields?_colon hminute (by decide) rfl, fields?_last hsecond (by decide)]
    rfl
  | thousandths s f =>
    have hsecond : s < 10 ^ 2 := hsecond
    have hfraction : f < 10 ^ 3 := by
      have : f * 1000 < 10 ^ 6 := hmicro
      omega
    have hstop : (Seconds.thousandths s f).bytes.length + 2 = 3 + 6 := by
      simp [Seconds.bytes, htwo hsecond, length_digitBytes (by decide : 0 < 3) hfraction]
    rw [Seconds.bytes, List.cons_append, List.append_assoc, List.cons_append]
    exact fields?_fraction hminute hsecond (by decide) (by decide) hfraction hstop r
  | millionths s f =>
    have hsecond : s < 10 ^ 2 := hsecond
    have hfraction : f < 10 ^ 6 := hmicro
    have hstop : (Seconds.millionths s f).bytes.length + 2 = 6 + 6 := by
      simp [Seconds.bytes, htwo hsecond, length_digitBytes (by decide : 0 < 6) hfraction]
    have hall : (Seconds.millionths s f).micro = f * 10 ^ (6 - 6) := (Nat.mul_one f).symm
    rw [hall, Seconds.bytes, List.cons_append, List.append_assoc, List.cons_append]
    exact fields?_fraction hminute hsecond (by decide) (by decide) hfraction hstop r

/-- Characters that stand where seconds may be written, if they are digits. -/
inductive SecondsPlace : List Char → Prop
  | none : SecondsPlace []
  | whole {ss : List Char} : ss.length = 2 → SecondsPlace (':' :: ss)
  | fraction {ss fs : List Char} : ss.length = 2 → fs.length = 3 ∨ fs.length = 6 →
      SecondsPlace (':' :: (ss ++ '.' :: fs))

/-- Characters that stand where a time of day may be written. -/
inductive ClockPlace : List Char → Prop
  | mk {hs ms tail : List Char} : hs.length = 2 → ms.length = 2 → SecondsPlace tail →
      ClockPlace (hs ++ ':' :: (ms ++ tail))

theorem charBytes_colon (cs : List Char) : charBytes (':' :: cs) = 58 :: charBytes cs :=
  charBytes_cons_ascii (by decide) cs

/-- Seconds that are read after the minutes are written in digits. -/
theorem exists_of_seconds {minute : Nat} (hplace : SecondsPlace cs) (hminute : minute < 10 ^ 2)
    (h : fields? 2 (some true) fields (digitBytes 2 minute ++ (charBytes cs ++ 43 :: r)) ((charBytes cs).length + 2) =
      some c) :
    ∃ seconds : Seconds, seconds.second < 10 ^ 2 ∧ seconds.micro < 10 ^ 6 ∧ cs = seconds.text.toList := by
  have hpoint : ∀ cs, charBytes ('.' :: cs) = 46 :: charBytes cs := fun cs => charBytes_cons_ascii (by decide) cs
  cases hplace with
  | none => exact ⟨.none, by decide, by decide, rfl⟩
  | @whole ss hsecond =>
    have hss := length_le_charBytes ss
    simp only [charBytes_colon, List.cons_append, List.length_cons] at h
    rw [fields?_colon hminute (by omega) rfl] at h
    obtain ⟨second, hs, rfl⟩ := exists_padded_of_fields? hsecond h
    refine ⟨.whole second, hs, ?_, by simp [Seconds.text]⟩
    show 0 < 10 ^ 6
    decide
  | @fraction ss fs hsecond hfraction =>
    have hss := length_le_charBytes ss
    have hfs := length_le_charBytes fs
    simp only [charBytes_colon, hpoint, charBytes_append, List.append_assoc, List.cons_append, List.length_append,
      List.length_cons] at h
    rw [fields?_colon hminute (by omega) rfl] at h
    obtain ⟨second, hs, rfl⟩ := exists_padded_of_fields? hsecond h
    rw [charBytes_padded, length_digitBytes (by decide) hs, fields?_point hs (by omega)] at h
    have hstop : 2 + ((charBytes fs).length + 1) + 1 + 2 - 3 - 3 = (charBytes fs).length := by omega
    rw [hstop] at h
    rcases hfraction with hthree | hsix
    · obtain ⟨fraction, hf, rfl⟩ := exists_padded_of_fraction? (by decide) (by decide) hthree h
      refine ⟨.thousandths second fraction, hs, ?_, by simp [Seconds.text]⟩
      show fraction * 1000 < 10 ^ 6
      omega
    · obtain ⟨fraction, hf, rfl⟩ := exists_padded_of_fraction? (by decide) (by decide) hsix h
      exact ⟨.millionths second fraction, hs, hf, by simp [Seconds.text]⟩

/-- **A time of day that is read is written in digits.** -/
theorem exists_of_clock? (hplace : ClockPlace cs)
    (h : clock? (charBytes cs ++ 43 :: r) (charBytes cs).length = some c) :
    ∃ hour minute seconds, hour < 10 ^ 2 ∧ minute < 10 ^ 2 ∧ seconds.second < 10 ^ 2 ∧ seconds.micro < 10 ^ 6 ∧
      cs = (Spelling.clockText hour minute seconds).toList := by
  obtain @⟨hs, ms, tail, hhour, hminute, htail⟩ := hplace
  have hms := length_le_charBytes ms
  simp only [charBytes_append, charBytes_colon, List.append_assoc, List.cons_append, List.length_append,
    List.length_cons] at h
  rw [clock?] at h
  obtain ⟨hour, hh, rfl⟩ := exists_padded_of_fields? hhour h
  rw [charBytes_padded, length_digitBytes (by decide) hh, fields?_colon hh (by omega) rfl] at h
  obtain ⟨minute, hm, rfl⟩ := exists_padded_of_fields? hminute h
  have hstop : 2 + (2 + (charBytes tail).length + 1) - 3 = (charBytes tail).length + 2 := by omega
  rw [charBytes_padded, length_digitBytes (by decide) hm, hstop] at h
  obtain ⟨seconds, hsecond, hmicro, rfl⟩ := exists_of_seconds htail hm h
  exact ⟨hour, minute, seconds, hh, hm, hsecond, hmicro, by simp [Spelling.clockText]⟩

/-! ## Universal time -/

theorem startsZone_of_mem_charBytes (h : ∀ c ∈ cs, c ≠ '+' ∧ c ≠ '-' ∧ c ≠ 'Z') {b : Nat} (hb : b ∈ charBytes cs) :
    startsZone b = false := by
  induction cs with
  | nil =>
    rw [charBytes_nil] at hb
    cases hb
  | cons c cs ih =>
    obtain ⟨⟨hplus, hminus, hz⟩, hcs⟩ := List.forall_mem_cons.1 h
    rw [charBytes_cons, List.mem_append] at hb
    refine hb.elim (fun hb => ?_) (ih hcs)
    have hcode : b ≠ 43 ∧ b ≠ 45 ∧ b ≠ 90 := by
      by_cases hascii : Text.isAscii c
      · rw [Text.utf8EncodeChar_ascii hascii, List.mem_singleton] at hb
        have hne : ∀ d : Char, c ≠ d → c.toNat ≠ d.toNat := fun d hd heq => hd (Char.toNat_inj.1 heq)
        rw [hb]
        exact ⟨hne '+' hplus, hne '-' hminus, hne 'Z' hz⟩
      · obtain ⟨byte, hbyte, rfl⟩ := List.mem_map.1 hb
        have := le_of_mem_utf8EncodeChar hascii hbyte
        omega
    simp only [startsZone, Bool.or_eq_false_iff, beq_eq_false_iff_ne]
    omega

theorem time?_offset {bs zone : Bytes} (h : ∀ b ∈ bs, startsZone b = false) : time? (bs ++ 43 :: zone) =
    (clock? (bs ++ 43 :: zone) bs.length).bind fun c => (offset? false zone).map fun n => (c, some n) := by
  have hstop : ((bs ++ 43 :: zone).takeWhile (!startsZone ·)).length = bs.length := length_takeWhile_zone h rfl
  have hdrop : (bs ++ 43 :: zone).drop bs.length = 43 :: zone := List.drop_left
  simp only [time?, hstop, hdrop]
  rfl

theorem stamp?_date {s : String} {d : Date} {bs : Bytes} (h : bytes s = dateBytes d ++ 84 :: bs) : stamp? s =
    (time? bs).bind fun (c, offset) => (Moment.make? d c.hour c.minute c.second c.micro).map (⟨·, offset⟩) := by
  have hlength : ¬ (dateBytes d ++ 84 :: bs).length < 7 := by
    rw [List.length_append, length_dateBytes]
    omega
  have hdrop : (dateBytes d ++ 84 :: bs).drop 10 = 84 :: bs := by
    rw [← length_dateBytes d, List.drop_left]
  rw [stamp?, h]
  simp only [hlength, ↓reduceIte, dateLength_dateBytes, datePart?_dateBytes, hdrop, Option.bind_eq_bind,
    Option.bind_some]
  have hone : charLength 84 = 1 := rfl
  rw [hone, List.drop_one, List.tail_cons]
  refine congrArg (time? bs).bind (funext fun x => ?_)
  cases Moment.make? d x.1.hour x.1.minute x.1.second x.1.micro <;> rfl

theorem exists_datePart? {s : String} {x : Stamp} (h : stamp? s = some x) :
    ∃ len d, datePart? len (bytes s) = some d := by
  rw [stamp?] at h
  dsimp only at h
  split at h
  · cases h
  · obtain ⟨d, hd, -⟩ := Option.bind_eq_some_iff.1 h
    exact ⟨_, d, hd⟩

theorem startsZone_of_mem_spelledBytes {hour minute : Nat} {seconds : Seconds} {b : Nat}
    (h : b ∈ spelledBytes hour minute seconds) : startsZone b = false := by
  have hbyte : isDigit b = true ∨ b = 58 ∨ b = 46 := by
    have hdigit : ∀ {width n : Nat}, b ∈ digitBytes width n → isDigit b = true := isDigit_of_mem_digitBytes
    cases seconds <;> simp only [spelledBytes, Seconds.bytes, List.mem_append, List.mem_cons, List.not_mem_nil] at h <;>
      grind
  rw [isDigit_iff] at hbyte
  simp only [startsZone, Bool.or_eq_false_iff, beq_eq_false_iff_ne]
  omega

/-! ## Points in universal time -/

theorem bytes_zone : bytes "+00:00" = [43, 48, 48, 58, 48, 48] := by decide +kernel

theorem offset?_zone : offset? false [48, 48, 58, 48, 48] = some 0 ∧ offset? false [48, 48, 58, 48, 48, 10] = none := by
  decide

theorem eq_nil_of_offset? {after : List Char} {n : Int} (hafter : after = [] ∨ after = ['\n'])
    (h : offset? false ([48, 48, 58, 48, 48] ++ charBytes after) = some n) : after = [] ∧ n = 0 := by
  rcases hafter with rfl | rfl
  · rw [charBytes_nil, List.append_nil, offset?_zone.1] at h
    cases h
    exact ⟨rfl, rfl⟩
  · have hten : charBytes ['\n'] = [10] := by decide +kernel
    rw [hten] at h
    cases offset?_zone.2.symm.trans h

/-- **What is spelled is read.** -/
theorem stamp?_front (p : Spelling) : stamp? (p.front ++ "+00:00") = some ⟨p.moment, some 0⟩ := by
  obtain ⟨hhour, hminute, hsecond, hmicro⟩ := p.valid
  have hbetween : bytes "T" = [84] := by decide +kernel
  have hbytes : bytes (p.front ++ "+00:00") = dateBytes p.date ++
      84 :: (spelledBytes p.hour p.minute p.seconds ++ 43 :: [48, 48, 58, 48, 48]) := by
    simp [Spelling.front, bytes_append, bytes_date, bytes_clockText, hbetween, bytes_zone]
  have hclock := clock?_spelledBytes (show p.hour < 10 ^ 2 by omega) (show p.minute < 10 ^ 2 by omega)
    (show p.seconds.second < 10 ^ 2 by omega) hmicro [48, 48, 58, 48, 48]
  rw [stamp?_date hbytes, time?_offset fun b hb => startsZone_of_mem_spelledBytes hb, hclock, offset?_zone.1]
  show (Moment.make? p.date p.hour p.minute p.seconds.second p.seconds.micro).map _ = _
  rw [Moment.make?, dif_pos p.valid]
  rfl

/-- Characters that stand where a date and a time of day may be written. None of the latter starts an offset. -/
inductive MomentPlace : List Char → Prop
  | mk {date clock : List Char} : DatePlace date → ClockPlace clock → (∀ c ∈ clock, c ≠ '+' ∧ c ≠ '-' ∧ c ≠ 'Z') →
      MomentPlace (date ++ 'T' :: clock)

/-- **What is read is spelled.** A point in universal time that is read from characters that stand where such a point
may be written is spelled by these, and nothing stands after them. -/
theorem exists_of_stamp? {after : List Char} {x : Stamp} (hplace : MomentPlace cs)
    (hafter : after = [] ∨ after = ['\n'])
    (h : stamp? (String.ofList (cs ++ ("+00:00".toList ++ after))) = some x) :
    after = [] ∧ ∃ p : Spelling, cs = p.front.toList ∧ x = ⟨p.moment, some 0⟩ := by
  obtain @⟨date, clock, hdate, hclock, hzone⟩ := hplace
  have hbytes : bytes (String.ofList (date ++ 'T' :: clock ++ ("+00:00".toList ++ after))) =
      charBytes date ++ 84 :: (charBytes clock ++ 43 :: ([48, 48, 58, 48, 48] ++ charBytes after)) := by
    have hbetween : ∀ cs, charBytes ('T' :: cs) = 84 :: charBytes cs := fun cs => charBytes_cons_ascii (by decide) cs
    rw [← charBytes, charBytes_append, charBytes_append, charBytes_append, hbetween, charBytes_toList, bytes_zone]
    simp
  obtain ⟨len, d, hd⟩ := exists_datePart? h
  rw [hbytes] at hd
  have hdateText := eq_toText_of_datePart? hdate hd
  rw [hdateText] at h hbytes
  rw [charBytes_toList, bytes_date] at hbytes
  rw [stamp?_date hbytes, time?_offset fun b hb => startsZone_of_mem_charBytes hzone hb] at h
  obtain ⟨⟨c, offset⟩, htime, hmake⟩ := Option.bind_eq_some_iff.1 h
  obtain ⟨c', hread, hoffset⟩ := Option.bind_eq_some_iff.1 htime
  obtain ⟨n, hn, hpair⟩ := Option.map_eq_some_iff.1 hoffset
  cases hpair
  obtain ⟨rfl, rfl⟩ := eq_nil_of_offset? hafter hn
  obtain ⟨hour, minute, seconds, hhour, hminute, hsecond, hmicro, hclockText⟩ := exists_of_clock? hclock hread
  rw [hclockText, charBytes_toList, bytes_clockText, clock?_spelledBytes hhour hminute hsecond hmicro] at hread
  cases hread
  obtain ⟨m, hm, rfl⟩ := Option.map_eq_some_iff.1 hmake
  unfold Moment.make? at hm
  split at hm
  next hvalid =>
    cases hm
    refine ⟨rfl, ⟨d, hour, minute, seconds, true, hvalid⟩, ?_, rfl⟩
    rw [hdateText, hclockText]
    simp [Spelling.front]
  next => cases hm

end Iso

/-! ## Instants -/

theorem Moment.micros_inj {m n : Moment} : m.micros = n.micros ↔ m = n := by
  refine ⟨fun h => ?_, fun h => by rw [h]⟩
  rw [← Option.some_inj, ← ofMicros?_micros m, ← ofMicros?_micros n, h]

namespace Spelling

theorem instant_eq (p : Spelling) : p.instant = p.moment.micros / 1000000 := by
  have hmicros : ((p.moment.micros : ℕ) : ℚ) = p.date.ordinal * 86400000000 +
      (((p.hour * 60 + p.minute) * 60 + p.seconds.second) * 1000000 + p.seconds.micro) := by
    simp [moment, Moment.micros, Moment.timeMicros, Moment.dayMicros]
  rw [hmicros, instant]
  cases p.seconds <;> simp only [Seconds.duration, Seconds.second, Seconds.micro] <;> push_cast <;> ring

/-- **Spellings are of one moment iff they denote one instant.** -/
theorem moment_eq_iff {p q : Spelling} : p.moment = q.moment ↔ p.instant = q.instant := by
  rw [instant_eq, instant_eq, div_left_inj' (by norm_num), Nat.cast_inj, Moment.micros_inj]

end Spelling

end TableQuery
