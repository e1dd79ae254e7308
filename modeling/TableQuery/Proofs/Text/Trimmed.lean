import Mathlib.Data.List.TakeWhile
import Mathlib.Data.String.Basic
import TableQuery.Text.Blank
import TableQuery.Text.Digit

/-!
# The ends and the pieces of a text

A text whose first and last characters are not blank is trimmed (`isTrimmed_of_ends`), one that ends with a blank is not
(`isTrimmed_append_blank`), one that has no characters left when it is trimmed has no words (`words_eq_nil`), and no
digit of any script is blank (`isBlank_of_digit`).

A text that is joined from pieces, none of them empty and none with the separator in it, is cut into the same pieces
(`fields_intercalate`). The characters of a word are characters of the text (`mem_of_mem_words`).
-/

set_option autoImplicit false

namespace TableQuery.Text

/-! ## Ends -/

theorem isTrimmed_iff {s : String} : isTrimmed s = true ↔ trim s = s := by
  rw [isTrimmed, beq_iff_eq, eq_comm]

theorem dropWhile_eq_self {p : Char → Bool} {c : Char} (h : p c = false) (cs : List Char) :
    (c :: cs).dropWhile p = c :: cs := by
  rw [List.dropWhile_cons_of_neg (by simp [h])]

theorem isTrimmed_of_ends {s : String} {c d : Char} {cs : List Char} (hs : s.toList = c :: (cs ++ [d]))
    (hc : isBlank c = false) (hd : isBlank d = false) : isTrimmed s = true := by
  have hreverse : (c :: (cs ++ [d])).reverse = d :: (c :: cs).reverse := by simp
  rw [isTrimmed_iff, trim, hs, strip, dropEndWhile, dropWhile_eq_self hc, hreverse, dropWhile_eq_self hd,
    ← hreverse, List.reverse_reverse, ← hs, String.ofList_toList]

theorem isTrimmed_of_not_blank {s : String} (h : ∀ c ∈ s.toList, isBlank c = false) : isTrimmed s = true := by
  have hkept : ∀ cs : List Char, (∀ c ∈ cs, isBlank c = false) → cs.dropWhile isBlank = cs := by
    intro cs hcs
    cases cs with
    | nil => rfl
    | cons c cs => exact dropWhile_eq_self (hcs c List.mem_cons_self) cs
  rw [isTrimmed_iff, trim, strip, dropEndWhile, hkept _ h, hkept _ fun c hc => h c (List.mem_reverse.1 hc),
    List.reverse_reverse, String.ofList_toList]

theorem isTrimmed_append_blank {s : String} {c : Char} {cs : List Char} (hs : s.toList = cs ++ [c])
    (hc : isBlank c = true) : isTrimmed s = false := by
  rw [Bool.eq_false_iff, ne_eq, isTrimmed_iff]
  intro htrim
  have hstrip : strip isBlank s.toList = cs ++ [c] := by
    rw [← hs, ← String.toList_ofList (l := strip isBlank s.toList), ← trim, htrim]
  rw [strip, dropEndWhile, List.reverse_eq_iff, List.reverse_append, List.reverse_singleton, List.singleton_append]
    at hstrip
  -- What is kept at the end is not blank.
  have hlast := List.head_dropWhile_not isBlank (l := (s.toList.dropWhile isBlank).reverse) (by rw [hstrip]; simp)
  simp only [hstrip, List.head_cons, hc] at hlast
  cases hlast

/-! ## Words -/

theorem all_of_strip_eq_nil {p : Char → Bool} {cs : List Char} (h : strip p cs = []) : ∀ c ∈ cs, p c = true := by
  rw [strip, dropEndWhile, List.reverse_eq_nil_iff] at h
  have hrest := List.dropWhile_eq_nil_iff.1 h
  rw [← List.dropWhile_eq_nil_iff]
  by_contra hne
  -- What is kept at the front is not dropped at the end.
  have hnot := List.head_dropWhile_not p hne
  rw [hrest _ (List.mem_reverse.2 (List.head_mem hne))] at hnot
  cases hnot

theorem isEmpty_of_mem_pieces {p : Char → Bool} {cs : List Char} (h : ∀ c ∈ cs, p c = true) :
    ∀ w ∈ pieces p cs, w.isEmpty = true := by
  induction cs with
  | nil => simp [pieces]
  | cons c cs ih =>
    intro w hw
    rw [pieces, if_pos (h c List.mem_cons_self)] at hw
    rcases List.mem_cons.1 hw with rfl | hw
    · rfl
    · exact ih (fun d hd => h d (List.mem_cons_of_mem _ hd)) w hw

theorem words_eq_nil {s : String} (h : (trim s).isEmpty = true) : words s = [] := by
  have hstrip : strip isBlank s.toList = [] := by
    rw [String.isEmpty_iff] at h
    rw [← String.toList_ofList (l := strip isBlank s.toList), ← trim, h, String.toList_empty]
  rw [words, fields, List.map_eq_nil_iff, List.filter_eq_nil_iff]
  intro w hw
  simp [isEmpty_of_mem_pieces (all_of_strip_eq_nil hstrip) w hw]

/-! ## Digits -/

theorem isBlank_of_digit {c : Char} (h : (digitValue? c).isSome = true) : isBlank c = false := by
  have hrun : ∀ z ∈ digitZeros, ∀ i < 10, isBlank (Char.ofNat (z + i)) = false := by decide +kernel
  rw [digitValue?, Option.isSome_map, List.find?_isSome] at h
  obtain ⟨z, hz, hc⟩ := h
  obtain ⟨hle, hlt⟩ : z ≤ c.toNat ∧ c.toNat < z + 10 := by simpa using hc
  have hdigit := hrun z hz (c.toNat - z) (by omega)
  rwa [Nat.add_sub_cancel' hle, Char.ofNat_toNat] at hdigit

/-! ## Bytes -/

theorem length_le_utf8Len (cs : List Char) : cs.length ≤ String.utf8Len cs := by
  induction cs with
  | nil => exact Nat.le_refl _
  | cons c cs ih =>
    have := c.utf8Size_pos
    rw [List.length_cons, String.utf8Len_cons]
    omega

theorem length_toList_loop (b : ByteArray) (i : Nat) (r : List UInt8) :
    (ByteArray.toList.loop b i r).length = b.size - i + r.length := by
  fun_induction ByteArray.toList.loop b i r with
  | case1 i r h ih =>
    rw [ih, List.length_cons]
    omega
  | case2 i r h =>
    rw [List.length_reverse]
    omega

theorem length_toUTF8 (s : String) : s.toUTF8.toList.length = String.utf8Len s.toList := by
  rw [ByteArray.toList, length_toList_loop, List.length_nil, Nat.sub_zero, Nat.add_zero,
    String.toUTF8_eq_toByteArray, String.size_toByteArray, String.utf8Len_toList]

/-! ## Pieces -/

theorem pieces_eq_splitOnP (p : Char → Bool) (cs : List Char) : pieces p cs = cs.splitOnP p := by
  induction cs with
  | nil => rfl
  | cons c cs ih =>
    rw [pieces, List.splitOnP_cons_eq_if_modifyHead, ih]
    split
    · rfl
    · split
      next hnil => exact absurd hnil (List.splitOnP_ne_nil p cs)
      next hpieces => rw [hpieces, List.modifyHead_cons]

theorem mem_of_mem_pieces {p : Char → Bool} {cs piece : List Char} {c : Char} (h : piece ∈ pieces p cs)
    (hc : c ∈ piece) : c ∈ cs := by
  induction cs generalizing piece with
  | nil =>
    rw [pieces, List.mem_singleton] at h
    rwa [h] at hc
  | cons d cs ih =>
    rw [pieces] at h
    split at h
    · rcases List.mem_cons.1 h with rfl | h
      · cases hc
      · exact List.mem_cons_of_mem _ (ih h hc)
    · split at h
      next hnil => exact absurd hnil (pieces_ne_nil p cs)
      next first others hpieces =>
        rw [hpieces] at ih
        rcases List.mem_cons.1 h with rfl | h
        · rcases List.mem_cons.1 hc with rfl | hc
          · exact List.mem_cons_self
          · exact List.mem_cons_of_mem _ (ih List.mem_cons_self hc)
        · exact List.mem_cons_of_mem _ (ih (List.mem_cons_of_mem _ h) hc)

theorem mem_of_mem_words {s w : String} {c : Char} (h : w ∈ words s) (hc : c ∈ w.toList) : c ∈ s.toList := by
  obtain ⟨piece, hpiece, rfl⟩ := List.mem_map.1 h
  rw [String.toList_ofList] at hc
  exact mem_of_mem_pieces (List.mem_filter.1 hpiece).1 hc

/-- **What is joined by separators is cut into what was joined.** -/
theorem fields_intercalate {texts : List String} (hne : texts ≠ []) (h : ∀ t ∈ texts, t ≠ "" ∧ ',' ∉ t.toList) :
    fields (· == ',') (",".intercalate texts) = texts := by
  have hcut : pieces (· == ',') (",".intercalate texts).toList = texts.map String.toList := by
    rw [pieces_eq_splitOnP, String.toList_intercalate]
    refine List.splitOn_intercalate ',' (fun piece hpiece => ?_) (by simpa using hne)
    obtain ⟨t, ht, rfl⟩ := List.mem_map.1 hpiece
    exact (h t ht).2
  have hkept : (texts.map String.toList).filter (!·.isEmpty) = texts.map String.toList := by
    refine List.filter_eq_self.2 fun piece hpiece => ?_
    obtain ⟨t, ht, rfl⟩ := List.mem_map.1 hpiece
    simpa using (h t ht).1
  rw [fields, hcut, hkept, List.map_map]
  exact List.map_id'' (fun t => String.ofList_toList) texts

end TableQuery.Text
