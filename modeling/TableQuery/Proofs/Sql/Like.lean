import Mathlib.Data.List.Infix
import Mathlib.Data.List.TakeWhile
import TableQuery.Proofs.Text.Folding
import TableQuery.Sql.Like

/-!
# What escaped patterns match

The pattern for a text matches the texts that have it somewhere, at the front or at the end
(`likes_contains`, `likes_startsWith`, `likes_endsWith`), whatever characters with a meaning it has. Both are compared
as a like test reads them (`likeChars`), which is in lower case as far as ASCII goes and otherwise character by
character for all texts but a few (`likeChars_of_isLikeReadable`).
-/

set_option autoImplicit false

namespace TableQuery.Sql

/-! ## Parts of patterns -/

section Parts

variable {cs part : List Char} {ps : List LikePart}

theorem anySuffix_eq_true {p : List Char → Bool} : anySuffix p cs = true ↔ ∃ rest, rest <:+ cs ∧ p rest = true := by
  induction cs with
  | nil => simp [anySuffix]
  | cons c cs ih =>
    simp only [anySuffix, Bool.or_eq_true, ih, List.suffix_cons_iff, or_and_right, exists_or, exists_eq_left]

theorem matchParts_anyText : matchParts (.anyText :: ps) cs = true ↔ ∃ rest, rest <:+ cs ∧ matchParts ps rest = true :=
  anySuffix_eq_true

theorem matchParts_only :
    matchParts (part.map .only ++ ps) cs = true ↔ ∃ rest, cs = part ++ rest ∧ matchParts ps rest = true := by
  induction part generalizing cs with
  | nil => simp
  | cons c part ih =>
    cases cs with
    | nil => simp [matchParts]
    | cons d cs =>
      simp only [List.map_cons, matchParts, Bool.and_eq_true, beq_iff_eq, ih, List.cons_append, List.cons.injEq]
      constructor
      · rintro ⟨rfl, rest, rfl, hrest⟩
        exact ⟨rest, ⟨rfl, rfl⟩, hrest⟩
      · rintro ⟨rest, ⟨rfl, rfl⟩, hrest⟩
        exact ⟨rfl, rest, rfl, hrest⟩

theorem matchParts_nil : matchParts [] cs = true ↔ cs = [] := by
  rw [matchParts, List.isEmpty_iff]

theorem matchParts_singleton_anyText : matchParts [.anyText] cs = true :=
  matchParts_anyText.2 ⟨[], List.nil_suffix, rfl⟩

theorem matchParts_front : matchParts (part.map .only ++ [.anyText]) cs = true ↔ part <+: cs := by
  rw [matchParts_only]
  constructor
  · rintro ⟨rest, rfl, -⟩
    exact List.prefix_append part rest
  · rintro ⟨rest, rfl⟩
    exact ⟨rest, rfl, matchParts_singleton_anyText⟩

theorem matchParts_end : matchParts (.anyText :: part.map .only) cs = true ↔ part <:+ cs := by
  rw [matchParts_anyText, ← List.append_nil (part.map LikePart.only)]
  simp only [matchParts_only, matchParts_nil]
  constructor
  · rintro ⟨_, hrest, _, rfl, rfl⟩
    rwa [List.append_nil] at hrest
  · exact fun h => ⟨part, h, [], (List.append_nil part).symm, rfl⟩

theorem matchParts_within : matchParts (.anyText :: (part.map .only ++ [.anyText])) cs = true ↔ part <:+: cs := by
  rw [matchParts_anyText, List.infix_iff_prefix_suffix]
  simp only [matchParts_front]
  exact exists_congr fun rest => and_comm

end Parts

/-! ## Escaped texts -/

theorem likeParts_cons {escaped : Bool} {c : Char} {cs : List Char} (h : isLikeSpecial c = false) :
    likeParts escaped (c :: cs) = .only c :: likeParts escaped cs := by
  simp only [isLikeSpecial, Bool.or_eq_false_iff, beq_eq_false_iff_ne] at h
  rw [likeParts.eq_def]
  split <;> simp_all

/-- **The characters of an escaped text stand for themselves.** -/
theorem likeParts_escapeChars {cs rest : List Char} :
    likeParts true (escapeChars cs ++ rest) = cs.map .only ++ likeParts true rest := by
  induction cs with
  | nil => rfl
  | cons c cs ih =>
    rw [escapeChars, List.map_cons, List.cons_append]
    split
    · rw [List.cons_append, List.cons_append, likeParts, if_pos rfl, ih]
    next h => rw [List.cons_append, likeParts_cons (Bool.not_eq_true _ ▸ h), ih]

/-- A mapping of characters that keeps those with a meaning, and makes no others, can be done before or after
escaping. -/
theorem escapeChars_map {f : Char → Char} (hkeep : ∀ c, isLikeSpecial c = true → f c = c)
    (hspecial : ∀ c, isLikeSpecial (f c) = isLikeSpecial c) (cs : List Char) :
    escapeChars (cs.map f) = (escapeChars cs).map f := by
  induction cs with
  | nil => rfl
  | cons c cs ih =>
    rw [List.map_cons, escapeChars, escapeChars, hspecial, ih]
    split
    · rw [List.map_cons, List.map_cons, hkeep '\\' rfl]
    · rw [List.map_cons]

/-! ## What a like test reads -/

/-- The form in which a like test reads a character that is not null. -/
def likeChar (c : Char) : Char := readLikeChar c.toLower

theorem toLower_eq_null_iff (c : Char) : c.toLower = '\x00' ↔ c = '\x00' :=
  Text.toLower_induct (P := fun c d => d = '\x00' ↔ c = '\x00') (by decide) (fun _ _ => Iff.rfl) c

theorem isLikeSpecial_likeChar (c : Char) : isLikeSpecial (likeChar c) = isLikeSpecial c := by
  refine Text.toLower_induct (P := fun c d => isLikeSpecial (readLikeChar d) = isLikeSpecial c)
    (by decide) (fun d _ => ?_) c
  unfold readLikeChar
  split
  next h =>
    rw [Bool.or_eq_true, beq_iff_eq, beq_iff_eq] at h
    rcases h with rfl | rfl <;> rfl
  next => rfl

theorem likeChar_of_isLikeSpecial {c : Char} (h : isLikeSpecial c = true) : likeChar c = c := by
  simp only [isLikeSpecial, Bool.or_eq_true, beq_iff_eq] at h
  rcases h with (rfl | rfl) | rfl <;> rfl

section Texts

variable {s t : String}

theorem likeChars_empty : likeChars "" = [] := rfl

theorem likeChars_append (h : '\x00' ∉ s.toList) : likeChars (s ++ t) = s.toList.map likeChar ++ likeChars t := by
  have hall : ∀ c ∈ s.toList.map Char.toLower, (c != '\x00') = true := by
    intro c hc
    obtain ⟨d, hd, rfl⟩ := List.mem_map.1 hc
    rw [bne_iff_ne, ne_eq, toLower_eq_null_iff]
    rintro rfl
    exact h hd
  rw [likeChars, likeChars, Text.foldAscii, Text.foldAscii, String.toList_ofList, String.toList_ofList,
    String.toList_append, List.map_append, List.takeWhile_append_of_pos hall, List.map_append, List.map_map]
  rfl

theorem likeChars_of_notMem (h : '\x00' ∉ s.toList) : likeChars s = s.toList.map likeChar := by
  rw [← String.append_empty (s := s), likeChars_append h, likeChars_empty, List.append_nil, String.append_empty]

/-- The text has only characters that a like test does not mistake for others. -/
def isLikeReadable (s : String) : Bool :=
  s.toList.all fun c => c != '\x00' && c != '\uFFFE' && c != '\uFFFF'

/-- **Apart from the case of ASCII letters, a readable text is read as it is.** -/
theorem likeChars_of_isLikeReadable (h : isLikeReadable s = true) : likeChars s = Text.foldedChars s := by
  simp only [isLikeReadable, List.all_eq_true, Bool.and_eq_true, bne_iff_ne] at h
  rw [likeChars_of_notMem fun hnull => (h _ hnull).1.1 rfl, Text.foldedChars, Text.foldAscii, String.toList_ofList]
  refine List.map_congr_left fun c hc => ?_
  have hread : ∀ c : Char, c ≠ '\uFFFE' → c ≠ '\uFFFF' → likeChar c = c.toLower := by
    refine Text.toLower_induct (P := fun c d => c ≠ '\uFFFE' → c ≠ '\uFFFF' → readLikeChar d = d)
      (by decide) fun d _ hfirst hsecond => ?_
    rw [readLikeChar, if_neg (by simp [hfirst, hsecond])]
  exact hread c (h c hc).1.2 (h c hc).2

/-! ## Patterns for texts -/

theorem notMem_escapeChars {cs : List Char} (h : '\x00' ∉ cs) : '\x00' ∉ escapeChars cs := by
  induction cs with
  | nil => exact h
  | cons c cs ih =>
    rw [List.mem_cons, not_or] at h
    rw [escapeChars]
    split <;> simp [h.1, ih h.2]

theorem likeChars_escapeLike_append (h : '\x00' ∉ s.toList) :
    likeChars (escapeLike s ++ t) = escapeChars (likeChars s) ++ likeChars t := by
  have hescaped : '\x00' ∉ (escapeLike s).toList := by
    rw [escapeLike, String.toList_ofList]
    exact notMem_escapeChars h
  rw [likeChars_append hescaped, likeChars_of_notMem h, escapeLike, String.toList_ofList,
    escapeChars_map (fun _ => likeChar_of_isLikeSpecial) isLikeSpecial_likeChar]

theorem likeChars_percent_append : likeChars ("%" ++ s) = '%' :: likeChars s := by
  have hpercent : "%".toList = ['%'] := rfl
  rw [likeChars_append (by decide), hpercent, List.map_singleton, likeChar_of_isLikeSpecial rfl, List.singleton_append]

theorem likeChars_percent : likeChars "%" = ['%'] := by
  rw [← String.append_empty (s := "%"), likeChars_percent_append, likeChars_empty]

theorem likeParts_percent (cs : List Char) : likeParts true ('%' :: cs) = .anyText :: likeParts true cs := rfl

theorem likes_iff : likes true s t = true ↔ matchParts (likeParts true (likeChars s)) (likeChars t) = true := Iff.rfl

/-- **A text with a percent sign after it** matches the texts that it is at the front of. -/
theorem likes_startsWith (h : '\x00' ∉ s.toList) :
    likes true (escapeLike s ++ "%") t = true ↔ likeChars s <+: likeChars t := by
  rw [likes_iff, likeChars_escapeLike_append h, likeChars_percent, likeParts_escapeChars]
  exact matchParts_front

/-- **A text between percent signs** matches the texts that it is somewhere in. -/
theorem likes_contains (h : '\x00' ∉ s.toList) :
    likes true ("%" ++ escapeLike s ++ "%") t = true ↔ likeChars s <:+: likeChars t := by
  rw [likes_iff, String.append_assoc, likeChars_percent_append, likeChars_escapeLike_append h, likeChars_percent,
    likeParts_percent, likeParts_escapeChars]
  exact matchParts_within

/-- **A text with a percent sign before it** matches the texts that it is at the end of. -/
theorem likes_endsWith (h : '\x00' ∉ s.toList) :
    likes true ("%" ++ escapeLike s) t = true ↔ likeChars s <:+ likeChars t := by
  rw [likes_iff, likeChars_percent_append, ← String.append_empty (s := escapeLike s), likeChars_escapeLike_append h,
    likeChars_empty, likeParts_percent, likeParts_escapeChars, likeParts, List.append_nil]
  exact matchParts_end

end Texts

end TableQuery.Sql
