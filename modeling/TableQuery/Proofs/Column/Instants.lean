import TableQuery.Column.Cell
import TableQuery.Proofs.Calendar.Order
import TableQuery.Proofs.Calendar.Spellings
import TableQuery.Proofs.Column.Written

/-!
# Dates and points in time as operands

Among the texts, those of dates are operands for dates (`Rule.read_date_eq_ok`), and the spellings of points in
universal time are operands for points in time (`Rule.read_moment_eq_ok`), with the fields that they have. The shapes
that are asked for first let digits of other scripts and a line feed pass, but these are not read. What is stored of the
operands is in the order of the calendar (`Rule.takes_dates_and_moments`).
-/

set_option autoImplicit false

namespace TableQuery

open Text (padded)

/-! ## Characters that fit a shape -/

namespace Shape

variable {ms ms' : List Mark} {cs : List Char} {s : String} {c : Char} {n : Nat}

theorem Fitting.of_append (h : Fitting (ms ++ ms') cs) :
    ∃ front back, cs = front ++ back ∧ Fitting ms front ∧ Fitting ms' back := by
  induction ms generalizing cs with
  | nil => exact ⟨[], cs, rfl, .nil, h⟩
  | cons m ms ih =>
    cases h with
    | cons hc h =>
      obtain ⟨front, back, rfl, hfront, hback⟩ := ih h
      exact ⟨_ :: front, back, rfl, .cons hc hfront, hback⟩

theorem Fitting.of_only (h : Fitting (.only c :: ms) cs) : ∃ back, cs = c :: back ∧ Fitting ms back := by
  cases h with
  | @cons _ d _ back hc h =>
    obtain rfl : d = c := by simpa [Mark.admits] using hc
    exact ⟨back, rfl, h⟩

theorem Fitting.of_map_only {ds : List Char} (h : Fitting (ds.map .only) cs) : cs = ds := by
  induction ds generalizing cs with
  | nil => cases h; rfl
  | cons d ds ih =>
    obtain ⟨back, rfl, hback⟩ := h.of_only
    rw [ih hback]

theorem fitting_map_only (ds : List Char) : Fitting (ds.map .only) ds := by
  induction ds with
  | nil => exact .nil
  | cons d ds ih => exact .cons (beq_self_eq_true d) ih

theorem exists_of_fits (h : fits ms s = true) :
    ∃ front after, s.toList = front ++ after ∧ Fitting ms front ∧ (after = [] ∨ after = ['\n']) := by
  unfold fits at h
  cases hafter : after? ms s.toList with
  | none => rw [hafter] at h; cases h
  | some after =>
    obtain ⟨front, hs, hfront⟩ := after?_eq_some.1 hafter
    rw [hafter] at h
    exact ⟨front, after, hs, hfront, by simpa [atEnd] using h⟩

theorem Fitting.ne_of_mem (h : Fitting ms cs) {d : Char} (hd : ∀ m ∈ ms, m.admits d = false) (hc : c ∈ cs) : c ≠ d := by
  obtain ⟨m, hm, hadmits⟩ := exists_of_mem_forall₂ h hc
  rintro rfl
  rw [hd m hm] at hadmits
  cases hadmits

/-- **Characters that have the shape of dates** stand where a date may be written. -/
theorem datePlace_of_fitting (h : Fitting date cs) : Iso.DatePlace cs := by
  have hdate : date = List.replicate 4 .digit ++ .only '-' :: (List.replicate 2 .digit ++
    .only '-' :: List.replicate 2 .digit) := rfl
  rw [hdate] at h
  obtain ⟨ys, _, rfl, hyear, hyears⟩ := h.of_append
  obtain ⟨_, rfl, hmonths⟩ := hyears.of_only
  obtain ⟨ms, _, rfl, hmonth, hdays⟩ := hmonths.of_append
  obtain ⟨ds, rfl, hday⟩ := hdays.of_only
  refine .mk hyear.length_eq.symm hmonth.length_eq.symm hday.length_eq.symm fun hweek => ?_
  have hno : ∀ m ∈ List.replicate 2 Mark.digit, m.admits 'W' = false := fun m hm => by
    rw [List.eq_of_mem_replicate hm]
    decide
  exact hmonth.ne_of_mem hno (List.mem_of_mem_head? hweek) rfl

/-- The shape of a time of day to the minute. -/
def minute : List Mark := List.replicate 2 .digit ++ .only ':' :: List.replicate 2 .digit

/-- The shapes of what may stand after the minutes. -/
def seconds : List (List Mark) :=
  [[], .only ':' :: List.replicate 2 .digit,
    .only ':' :: (List.replicate 2 .digit ++ .only '.' :: List.replicate 3 .digit),
    .only ':' :: (List.replicate 2 .digit ++ .only '.' :: List.replicate 6 .digit)]

theorem moments_eq : moments = seconds.flatMap fun ms => [true, false].map fun zulu =>
    date ++ .only 'T' :: (minute ++ ms) ++ (universalMark zulu).toList.map .only := rfl

theorem isMomentShaped_iff : isMomentShaped s = true ↔ ∃ ms ∈ seconds, ∃ zulu,
    fits (date ++ .only 'T' :: (minute ++ ms) ++ (universalMark zulu).toList.map .only) s = true := by
  rw [isMomentShaped, moments_eq, List.any_flatMap, List.any_eq_true]
  refine exists_congr fun ms => and_congr_right fun _ => ?_
  simp [or_comm]

theorem admits_front : ∀ ms ∈ seconds, ∀ m ∈ date ++ .only 'T' :: (minute ++ ms), m.admits 'Z' = false := by
  decide

theorem admits_clock : ∀ ms ∈ seconds, ∀ m ∈ minute ++ ms,
    m.admits '+' = false ∧ m.admits '-' = false ∧ m.admits 'Z' = false := by
  decide

theorem secondsPlace_of_fitting (hms : ms ∈ seconds) (h : Fitting ms cs) : Iso.SecondsPlace cs := by
  have hfraction : ∀ n, n = 3 ∨ n = 6 →
      Fitting (.only ':' :: (List.replicate 2 .digit ++ .only '.' :: List.replicate n .digit)) cs →
        Iso.SecondsPlace cs := by
    intro n hn h
    obtain ⟨_, rfl, hseconds⟩ := h.of_only
    obtain ⟨ss, _, rfl, hss, hpoint⟩ := hseconds.of_append
    obtain ⟨fs, rfl, hfs⟩ := hpoint.of_only
    have hlength : fs.length = n := hfs.length_eq.symm.trans List.length_replicate
    exact .fraction hss.length_eq.symm (hlength ▸ hn)
  simp only [seconds, List.mem_cons, List.not_mem_nil, or_false] at hms
  rcases hms with rfl | rfl | rfl | rfl
  · cases h
    exact .none
  · obtain ⟨ss, rfl, hss⟩ := h.of_only
    exact .whole hss.length_eq.symm
  · exact hfraction 3 (Or.inl rfl) h
  · exact hfraction 6 (Or.inr rfl) h

/-- **Characters that have the shape of points in time** stand where such a point may be written. -/
theorem momentPlace_of_fitting (hms : ms ∈ seconds) (h : Fitting (date ++ .only 'T' :: (minute ++ ms)) cs) :
    Iso.MomentPlace cs := by
  obtain ⟨ds, _, rfl, hdate, hrest⟩ := h.of_append
  obtain ⟨clock, rfl, hclock⟩ := hrest.of_only
  have hmarks := admits_clock ms hms
  refine .mk (datePlace_of_fitting hdate) ?_ fun c hc =>
    ⟨hclock.ne_of_mem (fun m hm => (hmarks m hm).1) hc, hclock.ne_of_mem (fun m hm => (hmarks m hm).2.1) hc,
      hclock.ne_of_mem (fun m hm => (hmarks m hm).2.2) hc⟩
  obtain ⟨_, tail, rfl, hminute, htail⟩ := hclock.of_append
  rw [Shape.minute] at hminute
  obtain ⟨hs, _, rfl, hhour, hcolon⟩ := hminute.of_append
  obtain ⟨minutes, rfl, hminutes⟩ := hcolon.of_only
  rw [List.append_assoc, List.cons_append]
  exact .mk hhour.length_eq.symm hminutes.length_eq.symm (secondsPlace_of_fitting hms htail)

theorem fitting_two (hn : n < 60) : Fitting (List.replicate 2 .digit) (padded 2 n).toList :=
  fitting_padded (by decide) (by omega)

theorem exists_fitting_seconds {x : Seconds} (hsecond : x.second < 60) (hmicro : x.micro < 1000000) :
    ∃ ms ∈ seconds, Fitting ms x.text.toList := by
  cases x with
  | none => exact ⟨[], by simp [seconds], .nil⟩
  | whole s =>
    refine ⟨.only ':' :: List.replicate 2 .digit, by simp [seconds], ?_⟩
    rw [Seconds.text, String.toList_append]
    exact (Fitting.only ':').append (fitting_two hsecond)
  | thousandths s f =>
    have hfraction : f < 10 ^ 3 := by
      have : f * 1000 < 1000000 := hmicro
      omega
    refine ⟨.only ':' :: (List.replicate 2 .digit ++ .only '.' :: List.replicate 3 .digit), by simp [seconds], ?_⟩
    simp only [Seconds.text, String.toList_append]
    exact (((Fitting.only ':').append (fitting_two hsecond)).append (.only '.')).append
      (fitting_padded (by decide : 0 < 3) hfraction)
  | millionths s f =>
    refine ⟨.only ':' :: (List.replicate 2 .digit ++ .only '.' :: List.replicate 6 .digit), by simp [seconds], ?_⟩
    simp only [Seconds.text, String.toList_append]
    exact (((Fitting.only ':').append (fitting_two hsecond)).append (.only '.')).append
      (fitting_padded (by decide : 0 < 6) hmicro)

/-- **What is spelled has the shape of points in time.** -/
theorem exists_fitting_front (p : Spelling) :
    ∃ ms ∈ seconds, Fitting (date ++ .only 'T' :: (minute ++ ms)) p.front.toList := by
  obtain ⟨hhour, hminute, hsecond, hmicro⟩ := p.valid
  obtain ⟨ms, hms, hseconds⟩ := exists_fitting_seconds hsecond hmicro
  refine ⟨ms, hms, ?_⟩
  have hclock := (((fitting_two (show p.hour < 60 by omega)).append (.only ':')).append (fitting_two hminute)).append
    hseconds
  simp only [Spelling.front, Spelling.clockText, String.toList_append]
  have hall := ((fitting_date p.date).append (.only 'T')).append hclock
  rwa [List.append_assoc] at hall

end Shape

/-! ## The mark of universal time -/

/-- Where only the mark of universal time is a letter, it is replaced by the offset. -/
theorem readUtc?_of_front {cs after : List Char} {zulu : Bool} (hcs : ∀ c ∈ cs, c ≠ 'Z')
    (hafter : after = [] ∨ after = ['\n']) {s : String} (hs : s.toList = cs ++ ((universalMark zulu).toList ++ after)) :
    readUtc? s = (Iso.stamp? (String.ofList (cs ++ ("+00:00".toList ++ after)))).bind Stamp.utc? := by
  have hkept : ∀ cs : List Char, (∀ c ∈ cs, c ≠ 'Z') →
      cs.flatMap (fun c => if c = 'Z' then "+00:00".toList else [c]) = cs := fun cs hcs => by
    rw [List.flatMap_congr fun c hc => if_neg (hcs c hc), List.flatMap_singleton']
  have hmark : (universalMark zulu).toList.flatMap (fun c => if c = 'Z' then "+00:00".toList else [c]) =
      "+00:00".toList := by
    cases zulu <;> rfl
  have hend : ∀ c ∈ after, c ≠ 'Z' := by
    rcases hafter with rfl | rfl <;> simp
  rw [readUtc?, hs, List.flatMap_append, List.flatMap_append, hkept cs hcs, hmark, hkept after hend]

/-! ## Operands -/

namespace Rule

/-- **Among the texts, those of dates are operands for dates.** -/
theorem read_date_eq_ok {s : String} {w : Operand} :
    read .date (.str s) = .ok w ↔ ∃ d : Date, s = d.toText ∧ w = .date d := by
  constructor
  · intro h
    rw [read] at h
    split at h
    next hshape =>
      obtain ⟨front, after, hs, hfront, hafter⟩ := Shape.exists_of_fits hshape
      split at h
      next d hd =>
        cases h
        have hbytes : Iso.bytes s = Iso.charBytes front ++ Iso.charBytes after := by
          rw [← Iso.charBytes_toList, hs, Iso.charBytes_append]
        unfold Iso.date? at hd
        dsimp only at hd
        split at hd
        next hlength =>
          rw [hbytes] at hd hlength
          have htext := Iso.eq_toText_of_datePart? (Shape.datePlace_of_fitting hfront) hd
          rw [htext, Iso.charBytes_toList, Iso.bytes_date, List.length_append, Iso.length_dateBytes] at hlength
          -- A line feed is a byte too many.
          have hnone : after = [] := by
            refine hafter.resolve_right fun hfeed => ?_
            have hone : (Iso.charBytes ['\n']).length = 1 := by decide +kernel
            rw [hfeed, hone] at hlength
            omega
          rw [hnone, List.append_nil, htext] at hs
          exact ⟨d, String.toList_inj.1 hs, rfl⟩
        next => cases hd
      next => cases h
    next => cases h
  · rintro ⟨d, rfl, rfl⟩
    exact read_date d

/-- **Among the texts, the spellings of points in universal time are operands for points in time.** -/
theorem read_moment_eq_ok {s : String} {w : Operand} :
    read .moment (.str s) = .ok w ↔ ∃ p : Spelling, s = p.text ∧ w = .moment p.moment := by
  constructor
  · intro h
    rw [read] at h
    split at h
    next hshape =>
      obtain ⟨ms, hms, zulu, hfits⟩ := Shape.isMomentShaped_iff.1 hshape
      obtain ⟨_, after, hs, hfitting, hafter⟩ := Shape.exists_of_fits hfits
      obtain ⟨cs, _, rfl, hcs, hzone⟩ := hfitting.of_append
      obtain rfl := hzone.of_map_only
      rw [List.append_assoc] at hs
      split at h
      next m hm =>
        cases h
        rw [readUtc?_of_front (fun c hc => hcs.ne_of_mem (Shape.admits_front ms hms) hc) hafter hs] at hm
        obtain ⟨x, hx, hutc⟩ := Option.bind_eq_some_iff.1 hm
        obtain ⟨hnone, p, hfront, hread⟩ := Iso.exists_of_stamp? (Shape.momentPlace_of_fitting hms hcs) hafter hx
        rw [hread, Stamp.utc?_zero] at hutc
        cases hutc
        refine ⟨{ p with zulu }, String.toList_inj.1 ?_, rfl⟩
        rw [hs, hnone, hfront, List.append_nil, Spelling.text, String.toList_append]
        rfl
      next => cases h
    next => cases h
  · rintro ⟨p, rfl, rfl⟩
    obtain ⟨ms, hms, hfront⟩ := Shape.exists_fitting_front p
    have htext : p.text.toList = p.front.toList ++ (universalMark p.zulu).toList := String.toList_append
    have hshape : isMomentShaped p.text = true := by
      refine Shape.isMomentShaped_iff.2 ⟨ms, hms, p.zulu, Shape.fits_of_fitting ?_⟩
      rw [htext]
      exact hfront.append (Shape.fitting_map_only _)
    have hread : readUtc? p.text = some p.moment := by
      rw [readUtc?_of_front (fun c hc => hfront.ne_of_mem (Shape.admits_front ms hms) hc) (Or.inl rfl)
        (htext.trans (by rw [List.append_nil])), List.append_nil, ← String.toList_append, String.ofList_toList,
        Iso.stamp?_front, Option.bind_some, Stamp.utc?_zero]
    simp only [read, hshape, ↓reduceIte, hread]

theorem prepare_date (d : Date) : prepare .date (.str d.toText) = .ok (.date d) :=
  prepare_of_read (read_date d)

theorem prepare_moment (p : Spelling) : prepare .moment (.str p.text) = .ok (.moment p.moment) :=
  prepare_of_read (read_moment_eq_ok.2 ⟨p, rfl, rfl⟩)

end Rule

/-! ## Characters -/

namespace Text

def AllAscii (s : String) : Prop := ∀ c ∈ s.toList, isAscii c

instance (s : String) : Decidable (AllAscii s) := List.decidableBAll isAscii s.toList

theorem allAscii_append {s t : String} : AllAscii (s ++ t) ↔ AllAscii s ∧ AllAscii t := by
  rw [AllAscii, String.toList_append, List.forall_mem_append]
  rfl

theorem allAscii_padded (width n : Nat) : AllAscii (padded width n) := by
  intro c hc
  have := Iso.bounds_of_isDigit (Iso.isDigit_of_mem_padded hc)
  show c.toNat < 128
  omega

end Text

open Text (AllAscii allAscii_append allAscii_padded)

theorem Date.allAscii_toText (d : Date) : AllAscii d.toText := by
  have hhyphen : AllAscii "-" := by decide
  simp only [toText, allAscii_append, allAscii_padded, hhyphen, and_self]

theorem Spelling.allAscii_text (p : Spelling) : AllAscii p.text := by
  have hbetween : AllAscii "T" := by decide
  have hcolon : AllAscii ":" := by decide
  have hpoint : AllAscii "." := by decide
  have hseconds : AllAscii p.seconds.text := by
    cases p.seconds with
    | none => decide
    | whole s => simp only [Seconds.text, allAscii_append, allAscii_padded, hcolon, and_self]
    | thousandths s f | millionths s f =>
      simp only [Seconds.text, allAscii_append, allAscii_padded, hcolon, hpoint, and_self]
  have hmark : AllAscii (universalMark p.zulu) := by cases p.zulu <;> decide
  simp only [text, front, clockText, allAscii_append, Date.allAscii_toText, allAscii_padded, hbetween, hcolon, hseconds,
    hmark, and_self]

/-! ## The operands and their order -/

open Sql (Value)

/-- **Dates and points in time as operands.** A text is an operand for dates iff it is the text of a date of the
calendar, and it is prepared as that date then, which is shown as the same text. A text is an operand for points in time
iff it is a spelling of a point in universal time, and it is prepared as the one with the fields that are written. Two
spellings are prepared as the same point in time iff they denote the same instant, which is so many microseconds after
the start of day 0. The store compares dates by the numbers of their days, and points in time by their microseconds. -/
theorem Rule.takes_dates_and_moments :
    (∀ s, Rule.Takes .date (.str s) ↔ ∃ d : Date, s = d.toText) ∧
    (∀ d : Date, d.toText.length = 10 ∧ AllAscii d.toText ∧ Rule.prepare .date (.str d.toText) = .ok (.date d) ∧
      (ColumnType.plain .date).render (.date d) = .ok (.str d.toText) ∧
      ColumnType.dateNullable.render (.date d) = .ok (.str d.toText)) ∧
    (∀ s, Rule.Takes .moment (.str s) ↔ ∃ p : Spelling, s = p.text) ∧
    (∀ p : Spelling, AllAscii p.text ∧ Rule.prepare .moment (.str p.text) = .ok (.moment p.moment) ∧
      p.instant = p.moment.micros / 1000000) ∧
    (∀ p q : Spelling, Rule.prepare .moment (.str p.text) = Rule.prepare .moment (.str q.text) ↔
      p.instant = q.instant) ∧
    (∀ d e : Date, (Value.ofOperand (.date d)).compare (.ofOperand (.date e)) = compare d.ordinal e.ordinal) ∧
    ∀ m n : Moment, (Value.ofOperand (.moment m)).compare (.ofOperand (.moment n)) = compare m.micros n.micros := by
  refine ⟨fun s => ?_, fun d => ⟨d.length_toText, d.allAscii_toText, Rule.prepare_date d, rfl, rfl⟩, fun s => ?_,
    fun p => ⟨p.allAscii_text, Rule.prepare_moment p, p.instant_eq⟩, fun p q => ?_, fun d e => ?_, fun m n => ?_⟩
  · simp only [Rule.Takes, Rule.read_date_eq_ok]
    exact ⟨fun ⟨_, d, hd, _⟩ => ⟨d, hd⟩, fun ⟨d, hd⟩ => ⟨_, d, hd, rfl⟩⟩
  · simp only [Rule.Takes, Rule.read_moment_eq_ok]
    exact ⟨fun ⟨_, p, hp, _⟩ => ⟨p, hp⟩, fun ⟨p, hp⟩ => ⟨_, p, hp, rfl⟩⟩
  · rw [Rule.prepare_moment, Rule.prepare_moment, Except.ok.injEq, Operand.moment.injEq, Spelling.moment_eq_iff]
  · exact Value.compare_of_ranked (Date.ranked_toText d e)
  · exact Value.compare_of_ranked (Moment.ranked_toStored m n)

/-- A quarter of a second after the last minute of a leap day has begun. -/
def leapQuarter : Spelling :=
  ⟨⟨2024, 2, 29, by decide⟩, 23, 59, .thousandths 0 250, true, by decide⟩

/-- The same instant with more digits, and with an offset. -/
def leapMillionths : Spelling :=
  { leapQuarter with
    seconds := .millionths 0 250000
    zulu := false
    valid := by decide }

def marchBegins : Spelling :=
  ⟨⟨2024, 3, 1, by decide⟩, 0, 0, .none, true, by decide⟩

/-- The spellings of one instant are both prepared as it, and it is stored before the next minute. -/
theorem Rule.takes_dates_and_moments_leapDay :
    leapQuarter.text = "2024-02-29T23:59:00.250Z" ∧ leapMillionths.text = "2024-02-29T23:59:00.250000+00:00" ∧
    Rule.Takes .moment (.str leapQuarter.text) ∧
    Rule.prepare .moment (.str leapQuarter.text) = Rule.prepare .moment (.str leapMillionths.text) ∧
    (Value.ofOperand (.moment leapQuarter.moment)).compare (.ofOperand (.moment marchBegins.moment)) = .lt := by
  obtain ⟨-, -, htakes, -, hsame, -, hcompare⟩ := Rule.takes_dates_and_moments
  refine ⟨by decide +kernel, by decide +kernel, (htakes _).2 ⟨_, rfl⟩, (hsame _ _).2 ?_, ?_⟩
  · norm_num [Spelling.instant, leapQuarter, leapMillionths, Seconds.duration]
  · rw [hcompare]
    decide +kernel

end TableQuery
