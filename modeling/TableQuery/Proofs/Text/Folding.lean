import TableQuery.Text.Case

/-!
# Two ways to fold a text

The lower case form of a text (`lower`) is that of its ASCII letters (`foldAscii`) iff no other character of the text
has a lower case form of its own (`lower_eq_foldAscii_iff`).
-/

set_option autoImplicit false

namespace TableQuery.Text

/-! ## Characters -/

theorem toLower_of_le {c : Char} (h : 128 ≤ c.toNat) : c.toLower = c := by
  unfold Char.toLower
  refine dif_neg fun hletter => ?_
  have hz : c.toNat ≤ 'Z'.toNat := UInt32.le_iff_toNat_le.1 hletter.2
  have hbound : 'Z'.toNat < 128 := by decide
  omega

/-- What is so of every ASCII character in lower case, and of every character beyond ASCII, is so of every character
in the form that `foldAscii` gives it. -/
theorem toLower_induct {P : Char → Char → Prop}
    (ascii : ∀ n < 128, P (Char.ofNat n) (Char.ofNat n).toLower) (beyond : ∀ c : Char, 128 ≤ c.toNat → P c c)
    (c : Char) : P c c.toLower := by
  by_cases h : c.toNat < 128
  · have hascii := ascii c.toNat h
    rwa [Char.ofNat_toNat] at hascii
  · rw [toLower_of_le (Nat.le_of_not_lt h)]
    exact beyond c (Nat.le_of_not_lt h)

/-- A character that has no lower case form other than the one of an ASCII letter. -/
def isPlain (c : Char) : Bool :=
  c.toNat < 128 || (c != 'Σ' && c != 'İ' && throughRuns lowerRuns c == c)

section Lower

variable {before after : List Char} {c : Char}

theorem lowerChar_of_isPlain (h : isPlain c = true) : lowerChar before c after = [c.toLower] := by
  unfold lowerChar
  simp only [isPlain, Bool.or_eq_true, Bool.and_eq_true, decide_eq_true_eq, bne_iff_ne, beq_iff_eq] at h
  by_cases hascii : c.toNat < 128
  · rw [if_pos hascii]
  · obtain ⟨⟨hsigma, hdotted⟩, hruns⟩ := h.resolve_left hascii
    rw [if_neg hascii, if_neg hsigma, if_neg hdotted, hruns, toLower_of_le (Nat.le_of_not_lt hascii)]

theorem lowerChar_of_not_isPlain (h : isPlain c = false) :
    ∃ d ds, lowerChar before c after = d :: ds ∧ d ≠ c.toLower := by
  simp only [isPlain, Bool.or_eq_false_iff, Bool.and_eq_false_iff, decide_eq_false_iff_not, bne_eq_false_iff_eq,
    beq_eq_false_iff_ne] at h
  obtain ⟨hbeyond, h⟩ := h
  unfold lowerChar
  rw [if_neg hbeyond, toLower_of_le (Nat.le_of_not_lt hbeyond)]
  by_cases hsigma : c = 'Σ'
  · rw [if_pos hsigma, hsigma]
    refine ⟨_, _, rfl, ?_⟩
    split <;> decide
  · rw [if_neg hsigma]
    by_cases hdotted : c = 'İ'
    · rw [if_pos hdotted, hdotted]
      exact ⟨_, _, rfl, by decide⟩
    · rw [if_neg hdotted]
      exact ⟨_, _, rfl, (h.resolve_left (not_or.2 ⟨hsigma, hdotted⟩))⟩

end Lower

/-! ## Texts -/

/-- The characters of a text, ASCII letters in lower case. -/
def foldedChars (s : String) : List Char := (foldAscii s).toList

/-- Lower case changes nothing in the text but ASCII letters. -/
def foldsAlike (s : String) : Bool := s.toList.all isPlain

/-- **The two ways to fold a text agree** iff lower case changes nothing in it but ASCII letters. -/
theorem lower_eq_foldAscii_iff {s : String} : lower s = foldAscii s ↔ foldsAlike s = true := by
  have hafter : ∀ cs before : List Char, lowerAfter before cs = cs.map Char.toLower ↔ cs.all isPlain = true := by
    intro cs
    induction cs with
    | nil => simp [lowerAfter]
    | cons c cs ih =>
      intro before
      rw [lowerAfter, List.map_cons, List.all_cons, Bool.and_eq_true]
      cases hplain : isPlain c with
      | true =>
        rw [lowerChar_of_isPlain hplain, List.singleton_append, List.cons.injEq, ih]
        exact ⟨fun h => ⟨rfl, h.2⟩, fun h => ⟨rfl, h.2⟩⟩
      | false =>
        obtain ⟨d, ds, hlower, hne⟩ := @lowerChar_of_not_isPlain before cs c hplain
        rw [hlower, List.cons_append, List.cons.injEq]
        exact ⟨fun h => absurd h.1 hne, nofun⟩
  rw [lower, foldAscii, String.ofList_inj, hafter, foldsAlike]

end TableQuery.Text
