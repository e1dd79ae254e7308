import Mathlib.Data.List.Forall2
import TableQuery.Proofs.Text.Trimmed
import TableQuery.Sql.Value

/-!
# What rules let through

The operands that a rule yields (`Rule.Yields`) and the values that it takes (`Rule.Takes`). Values that a rule
takes are the same only if they are equal (`Rule.same_iff`). A text that is taken is trimmed and not empty,
unless it is one of an identifier or the operand is the text itself (`Rule.text_of_takes`).
-/

set_option autoImplicit false

namespace TableQuery

namespace Rule

/-- The operands that a rule lets through. -/
def Yields : Rule → Operand → Prop
  | .bool, .bool _ | .int, .int _ | .string, .text _ | .date, .date _ | .moment, .moment _ => True
  | .trimmed, .text s => Text.isTrimmed s = true
  | .uuid, .text s => isUuid s = true
  | _, _ => False

theorem yields_of_read {r : Rule} {j : Json} {v : Operand} (h : r.read j = .ok v) : r.Yields v := by
  unfold Rule.read at h
  split at h <;> first
    | (cases h; trivial)
    | (split at h <;> first
        | (cases h; assumption)
        | cases h
        | (split at h <;> cases h; trivial))
    | cases h

theorem Yields.ne_null {r : Rule} {v : Operand} (h : r.Yields v) : Sql.Value.ofOperand v ≠ .null := by
  cases v <;> cases r <;> simp_all [Rule.Yields, Sql.Value.ofOperand, Sql.Value.ofBool]

/-- The values that a rule lets through. -/
def Takes (r : Rule) (j : Json) : Prop := ∃ v, r.read j = .ok v

/-- The operands that values are under a rule. -/
def operands (r : Rule) (values : List Json) : List Operand :=
  values.filterMap fun j => (r.read j).toOption

theorem mem_operands {r : Rule} {values : List Json} {v : Operand} :
    v ∈ r.operands values ↔ ∃ j ∈ values, r.read j = .ok v := by
  rw [operands, List.mem_filterMap]
  refine exists_congr fun j => and_congr_right fun _ => ?_
  cases r.read j <;> simp [Except.toOption]

/-! ## Equal values -/

def takesTexts : Rule → Bool
  | bool | int => false
  | _ => true

theorem exists_text_of_takes {r : Rule} {j : Json} (h : r.Takes j) (hr : r.takesTexts = true) :
    ∃ s, j = .str s := by
  obtain ⟨v, hv⟩ := h
  cases r <;> cases j <;> simp_all [takesTexts, read]

theorem ne_text_of_takes {r : Rule} {j : Json} (h : r.Takes j) (hr : r.takesTexts = false) (s : String) :
    j ≠ .str s := by
  obtain ⟨v, hv⟩ := h
  rintro rfl
  cases r <;> simp_all [takesTexts, read]

theorem exists_bool_of_read {j : Json} {v : Operand} (h : read .bool j = .ok v) : ∃ b, j = .bool b := by
  cases j <;> simp_all [read]

theorem exists_int_of_read {j : Json} {v : Operand} (h : read .int j = .ok v) : ∃ n, j = .int n := by
  cases j with
  | num n => cases n <;> simp_all [read]
  | _ => simp [read] at h

theorem same_iff {r : Rule} {j k : Json} (hj : r.Takes j) (hk : r.Takes k) : j.same k = true ↔ j = k := by
  cases hr : r.takesTexts with
  | true =>
    obtain ⟨s, rfl⟩ := exists_text_of_takes hj hr
    obtain ⟨t, rfl⟩ := exists_text_of_takes hk hr
    simp [Json.same]
  | false =>
    obtain ⟨v, hv⟩ := hj
    obtain ⟨w, hw⟩ := hk
    cases r with
    | bool =>
      obtain ⟨a, rfl⟩ := exists_bool_of_read hv
      obtain ⟨b, rfl⟩ := exists_bool_of_read hw
      cases a <;> cases b <;> simp [Json.same, Json.number?, Number.Numeric.same_int]
    | int =>
      obtain ⟨m, rfl⟩ := exists_int_of_read hv
      obtain ⟨n, rfl⟩ := exists_int_of_read hw
      simp [Json.same, Json.number?, Number.Numeric.same_int]
    | _ => cases hr

end Rule

/-! ## Texts -/

namespace Shape

/-- What stands before the characters after a shape fits it position by position. -/
theorem after?_eq_some {ms : List Mark} {cs rest : List Char} :
    after? ms cs = some rest ↔
      ∃ front, cs = front ++ rest ∧ List.Forall₂ (fun m c => m.admits c = true) ms front := by
  induction ms generalizing cs with
  | nil =>
    rw [after?, Option.some.injEq]
    simp
  | cons m ms ih =>
    cases cs with
    | nil => simp [after?, List.forall₂_cons_left_iff]
    | cons c cs =>
      rw [after?]
      constructor
      · intro h
        split at h
        next hm =>
          obtain ⟨front, rfl, hfront⟩ := ih.1 h
          exact ⟨c :: front, rfl, .cons hm hfront⟩
        next => cases h
      · rintro ⟨front, hcs, hfront⟩
        cases hfront with
        | cons hm hfront =>
          obtain ⟨rfl, rfl⟩ := List.cons.inj hcs
          rw [if_pos hm]
          exact ih.2 ⟨_, rfl, hfront⟩

end Shape

theorem isTrimmed_of_date {s : String} (hshape : isDateShaped s = true) (hdate : (Iso.date? s).isSome = true) :
    Text.isTrimmed s = true ∧ s ≠ "" := by
  rw [isDateShaped, Shape.fits] at hshape
  cases hafter : Shape.after? Shape.date s.toList with
  | none => rw [hafter] at hshape; cases hshape
  | some rest =>
    obtain ⟨front, hs, hfront⟩ := Shape.after?_eq_some.1 hafter
    have hlength : front.length = 10 := (List.Forall₂.length_eq hfront).symm
    have hrest : rest = [] := by
      rw [hafter] at hshape
      have hend : rest = [] ∨ rest = ['\n'] := by simpa [Shape.atEnd] using hshape
      refine hend.resolve_right fun hnewline => ?_
      -- With a line feed there are too many bytes for a date.
      have hbytes : 11 ≤ (Iso.bytes s).length := by
        rw [Iso.bytes, List.length_map, Text.length_toUTF8]
        refine le_trans ?_ (Text.length_le_utf8Len _)
        rw [hs, hnewline, List.length_append, hlength]
        decide
      rw [Iso.date?, if_neg (by omega)] at hdate
      cases hdate
    subst hrest
    replace hfront : List.Forall₂ (fun m c => Shape.Mark.admits m c = true)
      [.digit, .digit, .digit, .digit, .only '-', .digit, .digit, .only '-', .digit, .digit] front := hfront
    rcases hfront with
      _ | ⟨hc, _ | ⟨-, _ | ⟨-, _ | ⟨-, _ | ⟨-, _ | ⟨-, _ | ⟨-, _ | ⟨-, _ | ⟨-, _ | ⟨hd, _ | _⟩⟩⟩⟩⟩⟩⟩⟩⟩⟩
    rw [List.append_nil] at hs
    refine ⟨@Text.isTrimmed_of_ends _ _ _ [_, _, _, _, _, _, _, _] hs (Text.isBlank_of_digit hc)
      (Text.isBlank_of_digit hd), ?_⟩
    rintro rfl
    cases hs

namespace Rule

theorem eq_of_read_text {r : Rule} {j : Json} {s : String} (h : r.read j = .ok (.text s)) : j = .str s := by
  cases r with
  | string =>
    obtain ⟨t, rfl⟩ := exists_text_of_takes ⟨_, h⟩ rfl
    cases h
    rfl
  | trimmed | uuid =>
    obtain ⟨t, rfl⟩ := exists_text_of_takes ⟨_, h⟩ rfl
    rw [read] at h
    split at h
    · cases h
      rfl
    · cases h
  | bool | int | date | moment => cases yields_of_read h

/-- **A text that a rule takes is trimmed and not empty**, unless the operand is the text itself. -/
theorem text_of_takes {r : Rule} {s : String} {v : Operand} (h : r.read (.str s) = .ok v) (hr : r ≠ .string)
    (hmoment : r ≠ .moment) :
    Text.isTrimmed s = true ∧ s ≠ "" ∨ v = .text s ∧ (r = .trimmed ∧ s = "" ∨ r = .uuid) := by
  cases r with
  | bool | int => simp [read] at h
  | string => exact absurd rfl hr
  | moment => exact absurd rfl hmoment
  | trimmed =>
    rw [read] at h
    split at h
    next htrimmed =>
      cases h
      by_cases hs : s = ""
      · exact Or.inr ⟨rfl, Or.inl ⟨rfl, hs⟩⟩
      · exact Or.inl ⟨htrimmed, hs⟩
    next => cases h
  | uuid =>
    rw [read] at h
    split at h
    next =>
      cases h
      exact Or.inr ⟨rfl, Or.inr rfl⟩
    next => cases h
  | date =>
    rw [read] at h
    split at h
    next hshape =>
      split at h
      next d hd => exact Or.inl (isTrimmed_of_date hshape (by rw [hd]; rfl))
      next => cases h
    next => cases h

end Rule

end TableQuery
