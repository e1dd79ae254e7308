import TableQuery.Proofs.Column.Operands
import TableQuery.Proofs.Outcomes
import TableQuery.Sql.Like

/-!
# Texts without lone halves

What is made of a text that has no lone half of a surrogate pair has none either: its lower case form
(`Text.hasHalf_lower`) and the like pattern that stands for it (`Text.hasHalf_escapeLike`). Identifiers have none
(`Text.hasHalf_of_isUuid`).
-/

set_option autoImplicit false

namespace TableQuery

namespace Text

variable {s t : String}

/-! ## Characters -/

theorem half?_of_lt {c : Char} (h : c.toNat < 0x10D800) : half? c = none := by
  rw [half?, if_neg]
  rintro ⟨hlow, -⟩
  unfold halfShift at hlow
  omega

theorem half?_ofNat {n : Nat} (h : n < 0x10D800) : half? (Char.ofNat n) = none := by
  refine half?_of_lt ?_
  by_cases hvalid : n.isValidChar
  · rw [Char.ofNat, dif_pos hvalid]
    exact h
  · rw [Char.ofNat, dif_neg hvalid]
    decide

theorem hasHalf_eq_false_iff : hasHalf s = false ↔ ∀ c ∈ s.toList, half? c = none := by
  rw [hasHalf, List.any_eq_false]
  exact forall₂_congr fun c _ => by rw [Bool.not_eq_true, Option.isSome_eq_false_iff, Option.isNone_iff_eq_none]

theorem hasHalf_of_subset {cs : List Char} (h : hasHalf s = false)
    (hcs : ∀ c ∈ cs, c ∈ s.toList ∨ c.toNat < 0x10D800) : hasHalf (String.ofList cs) = false := by
  rw [hasHalf_eq_false_iff, String.toList_ofList]
  intro c hc
  rcases hcs c hc with hmem | hlt
  · exact hasHalf_eq_false_iff.1 h c hmem
  · exact half?_of_lt hlt

theorem hasHalf_append : hasHalf (s ++ t) = (hasHalf s || hasHalf t) := by
  rw [hasHalf, hasHalf, hasHalf, String.toList_append, List.any_append]

/-! ## Lower case -/

theorem half?_throughRuns {c : Char} (h : half? c = none) : half? (throughRuns lowerRuns c) = none := by
  have hruns : ∀ run ∈ lowerRuns, run.2.1 + run.2.2.2 < 0x10D800 := by decide +kernel
  unfold throughRuns
  split
  next first last step distance hfind =>
    have hbound := hruns _ (List.mem_of_find?_eq_some hfind)
    have hin := List.find?_some hfind
    simp only [Bool.and_eq_true, decide_eq_true_eq, beq_iff_eq] at hin
    refine half?_ofNat ?_
    dsimp only at hbound
    omega
  next => exact h

theorem half?_of_mem_lowerChar {before after : List Char} {c d : Char} (h : half? c = none)
    (hd : d ∈ lowerChar before c after) : half? d = none := by
  unfold lowerChar at hd
  split at hd
  next hascii =>
    have hletters : ∀ n < 128, half? (Char.ofNat n).toLower = none := by decide +kernel
    have hletter := hletters c.toNat hascii
    rwa [Char.ofNat_toNat, ← List.mem_singleton.1 hd] at hletter
  next =>
    split at hd
    · rw [List.mem_singleton.1 hd]
      split <;> decide
    · split at hd
      · simp only [List.mem_cons, List.not_mem_nil, or_false] at hd
        rcases hd with rfl | rfl <;> decide
      · rw [List.mem_singleton.1 hd]
        exact half?_throughRuns h

/-- **The lower case form of a text without lone halves has none.** -/
theorem hasHalf_lower (h : hasHalf s = false) : hasHalf (lower s) = false := by
  have hafter : ∀ (cs before : List Char), (∀ c ∈ cs, half? c = none) → ∀ d ∈ lowerAfter before cs, half? d = none := by
    intro cs
    induction cs with
    | nil => nofun
    | cons c cs ih =>
      intro before hcs d hd
      rw [lowerAfter, List.mem_append] at hd
      rcases hd with hd | hd
      · exact half?_of_mem_lowerChar (hcs c List.mem_cons_self) hd
      · exact ih _ (fun c' hc' => hcs c' (List.mem_cons_of_mem _ hc')) d hd
  rw [hasHalf_eq_false_iff, lower, String.toList_ofList]
  exact hafter _ _ (hasHalf_eq_false_iff.1 h)

/-! ## Patterns -/

/-- **The like pattern for a text without lone halves has none.** -/
theorem hasHalf_escapeLike (h : hasHalf s = false) : hasHalf (Sql.escapeLike s) = false := by
  have hescape : ∀ cs : List Char, ∀ d ∈ Sql.escapeChars cs, d ∈ cs ∨ d = '\\' := by
    intro cs
    induction cs with
    | nil => nofun
    | cons c cs ih =>
      intro d hd
      rw [Sql.escapeChars] at hd
      split at hd <;> simp only [List.mem_cons] at hd ⊢ <;> grind
  refine hasHalf_of_subset h fun d hd => ?_
  rcases hescape _ d hd with hmem | rfl
  · exact Or.inl hmem
  · exact Or.inr (by decide)

/-! ## Identifiers -/

end Text

/-- A position of a shape at which only ASCII characters stand. -/
def Shape.Mark.isAscii : Shape.Mark → Bool
  | hex => true
  | only c => c.toNat < 128
  | digit => false

theorem Shape.Mark.toNat_lt {m : Shape.Mark} {c : Char} (hm : m.isAscii = true) (hc : m.admits c = true) :
    c.toNat < 128 := by
  cases m with
  | hex =>
    rw [admits, Bool.or_eq_true, Bool.and_eq_true, Bool.and_eq_true] at hc
    simp only [decide_eq_true_eq] at hc
    rcases hc with ⟨-, hc⟩ | ⟨-, hc⟩
    · exact Nat.lt_of_le_of_lt (show c.toNat ≤ '9'.toNat from hc) (by decide)
    · exact Nat.lt_of_le_of_lt (show c.toNat ≤ 'f'.toNat from hc) (by decide)
  | only d =>
    rw [admits, beq_iff_eq] at hc
    rw [hc]
    exact of_decide_eq_true hm
  | digit => cases hm

/-- **An identifier has no lone halves.** -/
theorem Text.hasHalf_of_isUuid {s : String} (h : isUuid s = true) : hasHalf s = false := by
  have hmarks : ∀ m ∈ Shape.uuid, m.isAscii = true := List.all_eq_true.1 (by decide)
  rw [isUuid, Shape.fits] at h
  cases hafter : Shape.after? Shape.uuid s.toList with
  | none => rw [hafter] at h; cases h
  | some rest =>
    obtain ⟨front, hs, hfront⟩ := Shape.after?_eq_some.1 hafter
    have hrest : rest = [] ∨ rest = ['\n'] := by
      rw [hafter] at h
      simpa [Shape.atEnd] using h
    rw [hasHalf_eq_false_iff, hs]
    intro c hc
    refine half?_of_lt ?_
    rcases List.mem_append.1 hc with hc | hc
    · obtain ⟨m, hm, hadmits⟩ := exists_of_mem_forall₂ hfront hc
      exact Nat.lt_trans (Shape.Mark.toNat_lt (hmarks m hm) hadmits) (by decide)
    · rcases hrest with rfl | rfl
      · cases hc
      · rw [List.mem_singleton.1 hc]
        decide

end TableQuery
