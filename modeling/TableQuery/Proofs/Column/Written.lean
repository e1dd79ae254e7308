import TableQuery.Proofs.Calendar.Days
import TableQuery.Proofs.Column.Operands
import TableQuery.Proofs.Outcomes

/-!
# Written values as operands

What is shown of a value is an operand: the text of a date stands for that date (`Rule.read_date`), and the text of a
point in time for the start of its second (`Rule.read_moment`).
-/

set_option autoImplicit false

namespace TableQuery

/-! ## Shapes -/

namespace Shape

open List (Forall₂)

/-- The characters stand where a shape admits them. -/
abbrev Fitting (ms : List Mark) (cs : List Char) : Prop := Forall₂ (fun m c => m.admits c = true) ms cs

theorem fits_of_fitting {ms : List Mark} {s : String} (h : Fitting ms s.toList) : fits ms s = true := by
  rw [fits, after?_eq_some.2 ⟨s.toList, (List.append_nil _).symm, h⟩]
  rfl

theorem Fitting.append {ms ms' : List Mark} {cs cs' : List Char} (h : Fitting ms cs) (h' : Fitting ms' cs') :
    Fitting (ms ++ ms') (cs ++ cs') :=
  List.rel_append h h'

theorem Fitting.only (c : Char) : Fitting [.only c] [c] := .cons (beq_self_eq_true c) .nil

theorem admits_digit {c : Char} (h : c.isDigit = true) : Mark.digit.admits c = true := by
  obtain ⟨hlow, hhigh⟩ := Iso.bounds_of_isDigit h
  rw [Mark.admits, Text.digitValue?, Option.isSome_map, List.find?_isSome]
  refine ⟨0x30, List.mem_of_mem_head? (Option.mem_def.2 Text.digitZeros_head), ?_⟩
  rw [Bool.and_eq_true, decide_eq_true_eq, decide_eq_true_eq]
  omega

theorem fitting_padded {width n : Nat} (hwidth : 0 < width) (hn : n < 10 ^ width) :
    Fitting (List.replicate width .digit) (Text.padded width n).toList := by
  refine List.forall₂_iff_zip.2 ⟨?_, fun hmem => ?_⟩
  · rw [List.length_replicate, String.length_toList, Text.length_padded hwidth hn]
  · obtain ⟨hmark, hc⟩ := List.of_mem_zip hmem
    rw [List.eq_of_mem_replicate hmark]
    exact admits_digit (Iso.isDigit_of_mem_padded hc)

/-- **The text of a date has the shape of dates.** -/
theorem fitting_date (d : Date) : Fitting date d.toText.toList := by
  obtain ⟨hyear, hmonth, hday⟩ := Iso.date_bounds d
  simp only [Date.toText, String.toList_append]
  exact ((((fitting_padded (by decide : 0 < 4) hyear).append (.only '-')).append
    (fitting_padded (by decide : 0 < 2) hmonth)).append (.only '-')).append (fitting_padded (by decide : 0 < 2) hday)

/-- The shape of points in time to the second. -/
def second : List Mark := ofPattern "0000-00-00T00:00:00"

/-- **The text of a point in time to the second has the shape of such.** -/
theorem fitting_second (m : Moment) : Fitting second m.toSeconds.toList := by
  obtain ⟨hhour, hminute, hsecond, -⟩ := m.valid
  have htwo : ∀ {n : Nat}, n < 60 → Fitting (List.replicate 2 .digit) (Text.padded 2 n).toList :=
    fun hn => fitting_padded (by decide) (by omega)
  simp only [Moment.toSeconds, Moment.timeText, String.toList_append]
  exact ((fitting_date m.date).append (.only 'T')).append (((((htwo (by omega)).append (.only ':')).append
    (htwo hminute)).append (.only ':')).append (htwo hsecond))

end Shape

theorem isDateShaped_toText (d : Date) : isDateShaped d.toText = true :=
  Shape.fits_of_fitting (Shape.fitting_date d)

theorem isMomentShaped_toSeconds (m : Moment) : isMomentShaped (m.toSeconds ++ "Z") = true := by
  refine List.any_eq_true.2 ⟨Shape.second ++ [.only 'Z'], by simp [Shape.moments, Shape.second], ?_⟩
  refine Shape.fits_of_fitting ?_
  rw [String.toList_append]
  exact (Shape.fitting_second m).append (.only 'Z')

/-! ## Points in time -/

namespace Moment

def startOfSecond (m : Moment) : Moment :=
  { m with micro := 0, valid := ⟨m.valid.1, m.valid.2.1, m.valid.2.2.1, by decide⟩ }

theorem startOfSecond_eq_self {m : Moment} : m.startOfSecond = m ↔ m.micro = 0 := by
  rw [startOfSecond, Moment.mk.injEq]
  simp [eq_comm]

theorem ne_of_mem_toSeconds {m : Moment} {c : Char} (h : c ∈ m.toSeconds.toList) : c ≠ 'Z' := by
  obtain ⟨mark, hmark, hadmits⟩ := exists_of_mem_forall₂ (Shape.fitting_second m) h
  have hmarks : ∀ mark ∈ Shape.second, mark.admits 'Z' = false := List.forall_iff_forall_mem.1 (by decide +kernel)
  rintro rfl
  rw [hmarks mark hmark] at hadmits
  cases hadmits

end Moment

/-- **The text of a point in time is one in universal time**, the start of its second. -/
theorem Iso.stamp?_universal (m : Moment) :
    stamp? (String.ofList ((m.toSeconds ++ "Z").toList.flatMap fun c => if c = 'Z' then "+00:00".toList else [c])) =
      some ⟨m.startOfSecond, some 0⟩ := by
  have hzone : String.ofList ((m.toSeconds ++ "Z").toList.flatMap fun c => if c = 'Z' then "+00:00".toList else [c]) =
      m.startOfSecond.toSeconds ++ "+00:00" := by
    have hkept : m.toSeconds.toList.flatMap (fun c => if c = 'Z' then "+00:00".toList else [c]) =
        m.toSeconds.toList := by
      rw [List.flatMap_congr fun c hc => if_neg (Moment.ne_of_mem_toSeconds hc), List.flatMap_singleton']
    rw [String.toList_append, List.flatMap_append, hkept, String.ofList_append, String.ofList_toList]
    rfl
  rw [hzone, stamp?_toSeconds rfl]

/-- **The text of a point in time is read as the start of its second.** -/
theorem readUtc?_toSeconds (m : Moment) : readUtc? (m.toSeconds ++ "Z") = some m.startOfSecond := by
  rw [readUtc?, Iso.stamp?_universal, Option.bind_some, Stamp.utc?_zero]

/-! ## Operands -/

namespace Rule

theorem read_date (d : Date) : read .date (.str d.toText) = .ok (.date d) := by
  simp only [read, isDateShaped_toText, ↓reduceIte, Iso.date?_toText]

theorem read_moment (m : Moment) : read .moment (.str (m.toSeconds ++ "Z")) = .ok (.moment m.startOfSecond) := by
  simp only [read, isMomentShaped_toSeconds, ↓reduceIte, readUtc?_toSeconds]

end Rule

end TableQuery
