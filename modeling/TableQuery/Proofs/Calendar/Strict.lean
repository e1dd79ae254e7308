import TableQuery.Proofs.Calendar.Order

/-!
# Numbers are read strictly

Where a number is read, there are digits of ASCII: a digit of another script has bytes that are no digits
(`Iso.isDigit_of_number?`). So the characters that a number is read from are that number, filled up to its width
(`Iso.exists_padded_of_number?`), and the characters that a date is read from are the text of the date
(`Iso.eq_toText_of_datePart?`), wherever hyphens stand between its numbers.
-/

set_option autoImplicit false

namespace TableQuery.Iso

variable {cs : List Char} {c : Char} {rest r : Bytes} {n k width : Nat}

/-! ## Bytes of characters -/

def charBytes (cs : List Char) : Bytes := bytes (String.ofList cs)

theorem charBytes_toList (s : String) : charBytes s.toList = bytes s := by
  rw [charBytes, String.ofList_toList]

theorem charBytes_nil : charBytes [] = [] := by decide +kernel

theorem charBytes_append (cs ds : List Char) : charBytes (cs ++ ds) = charBytes cs ++ charBytes ds := by
  rw [charBytes, String.ofList_append, bytes_append]
  rfl

theorem charBytes_cons (c : Char) (cs : List Char) :
    charBytes (c :: cs) = (String.utf8EncodeChar c).map (·.toNat) ++ charBytes cs := by
  simp only [charBytes, bytes, String.toUTF8_eq_toByteArray, String.toByteArray_ofList, Text.toList_utf8Encode,
    List.flatMap_cons, List.map_append]

theorem charBytes_cons_ascii (h : Text.isAscii c) (cs : List Char) : charBytes (c :: cs) = c.toNat :: charBytes cs := by
  rw [charBytes_cons, Text.utf8EncodeChar_ascii h, List.singleton_append]

theorem charBytes_padded (width n : Nat) : charBytes (Text.padded width n).toList = digitBytes width n := by
  rw [charBytes_toList, bytes_padded]

theorem le_of_mem_utf8EncodeChar (h : ¬ Text.isAscii c) {b : UInt8} (hb : b ∈ String.utf8EncodeChar c) :
    128 ≤ b.toNat := by
  have hc : ¬ c.val.toNat ≤ 127 := fun hle => h (Nat.lt_succ_of_le hle)
  have hbyte : ∀ n, 128 ≤ n → n < 256 → 128 ≤ (UInt8.ofNat n).toNat := fun n hlow hhigh => by
    rw [UInt8.toNat_ofNat', Nat.mod_eq_of_lt hhigh]
    exact hlow
  unfold String.utf8EncodeChar at hb
  dsimp only at hb
  rw [if_neg hc] at hb
  split at hb
  · simp only [List.mem_cons, List.not_mem_nil, or_false] at hb
    rcases hb with rfl | rfl <;> exact hbyte _ (by omega) (by omega)
  split at hb
  · simp only [List.mem_cons, List.not_mem_nil, or_false] at hb
    rcases hb with rfl | rfl | rfl <;> exact hbyte _ (by omega) (by omega)
  · simp only [List.mem_cons, List.not_mem_nil, or_false] at hb
    rcases hb with rfl | rfl | rfl | rfl <;> exact hbyte _ (by omega) (by omega)

theorem exists_first_byte (c : Char) : ∃ b bs, (String.utf8EncodeChar c).map (·.toNat) = b :: bs :=
  List.exists_cons_of_ne_nil fun h => String.utf8EncodeChar_ne_nil (List.map_eq_nil_iff.1 h)

theorem toNat_eq_of_head {b : Nat} {bs : Bytes} (h : (String.utf8EncodeChar c).map (·.toNat) = b :: bs)
    (hb : b < 128) : c.toNat = b ∧ bs = [] := by
  by_cases hascii : Text.isAscii c
  · rw [Text.utf8EncodeChar_ascii hascii] at h
    obtain ⟨rfl, rfl⟩ := List.cons.inj h
    exact ⟨rfl, rfl⟩
  · have hmem : b ∈ (String.utf8EncodeChar c).map (·.toNat) := h ▸ List.mem_cons_self
    obtain ⟨byte, hbyte, rfl⟩ := List.mem_map.1 hmem
    exact absurd (le_of_mem_utf8EncodeChar hascii hbyte) (Nat.not_le_of_lt hb)

theorem isDigit_iff {b : Nat} : isDigit b = true ↔ 48 ≤ b ∧ b ≤ 57 := by
  rw [isDigit, Bool.and_eq_true, decide_eq_true_eq, decide_eq_true_eq]

/-! ## Numbers -/

theorem isDigit_of_take (h : ((charBytes cs ++ rest).take n).all isDigit = true) (hn : cs.length ≤ n) :
    ∀ c ∈ cs, c.isDigit = true := by
  induction cs generalizing n with
  | nil => simp
  | cons c cs ih =>
    obtain ⟨n, rfl⟩ : ∃ m, n = m + 1 := ⟨n - 1, by rw [List.length_cons] at hn; omega⟩
    obtain ⟨b, bs, hbytes⟩ := exists_first_byte c
    rw [charBytes_cons, hbytes, List.cons_append, List.cons_append, List.take_succ_cons, List.all_cons,
      Bool.and_eq_true] at h
    have hdigit := isDigit_iff.1 h.1
    obtain ⟨rfl, rfl⟩ := toNat_eq_of_head hbytes (by omega)
    have hc : c.isDigit = true := by
      rw [Char.isDigit, Bool.and_eq_true, decide_eq_true_eq, decide_eq_true_eq]
      exact hdigit
    exact List.forall_mem_cons.2 ⟨hc, ih h.2 (Nat.le_of_succ_le_succ hn)⟩

/-- **Where a number is read, there are digits of ASCII.** -/
theorem isDigit_of_number? (h : number? n (charBytes cs ++ rest) = some (k, r)) (hn : cs.length ≤ n) :
    ∀ c ∈ cs, c.isDigit = true := by
  unfold number? at h
  dsimp only at h
  split at h
  next hall => exact isDigit_of_take hall.2 hn
  next => cases h

/-- **The characters that a number is read from** are that number, filled up to its width. -/
theorem exists_padded_of_number? (hwidth : 0 < width) (hlength : cs.length = width)
    (h : number? width (charBytes cs ++ rest) = some (k, r)) :
    k < 10 ^ width ∧ cs = (Text.padded width k).toList ∧ r = rest := by
  obtain ⟨n, hn, rfl⟩ := Text.exists_eq_padded hwidth hlength (isDigit_of_number? h hlength.le)
  rw [charBytes_padded, number?_digitBytes hwidth hn] at h
  cases h
  exact ⟨hn, rfl, rfl⟩

/-! ## Dates -/

/-- Characters that stand where a date may be written. No week starts after the first hyphen. -/
inductive DatePlace : List Char → Prop
  | mk {ys ms ds : List Char} : ys.length = 4 → ms.length = 2 → ds.length = 2 → ms.head? ≠ some 'W' →
      DatePlace (ys ++ '-' :: (ms ++ '-' :: ds))

/-- **The characters that a date with hyphens is read from** are the text of the date. -/
theorem eq_toText_of_datePart? {len : Nat} {d : Date} (hplace : DatePlace cs)
    (h : datePart? len (charBytes cs ++ rest) = some d) : cs = d.toText.toList := by
  obtain @⟨ys, ms, ds, hyear, hmonth, hday, hweek⟩ := hplace
  have hhyphen : ∀ cs, charBytes ('-' :: cs) = 45 :: charBytes cs := fun cs => charBytes_cons_ascii (by decide) cs
  have hbytes : charBytes (ys ++ '-' :: (ms ++ '-' :: ds)) ++ rest =
      charBytes ys ++ 45 :: (charBytes ms ++ 45 :: (charBytes ds ++ rest)) := by
    simp [charBytes_append, hhyphen]
  rw [hbytes, datePart?] at h
  obtain ⟨⟨year, r⟩, hyears, h⟩ := Option.bind_eq_some_iff.1 h
  obtain ⟨-, rfl, rfl⟩ := exists_padded_of_number? (by decide) hyear hyears
  dsimp only at h
  simp only [List.head?_cons, beq_self_eq_true, ↓reduceIte, List.drop_one, List.tail_cons] at h
  split at h
  next r hr =>
    -- A week starts with a letter.
    cases ms with
    | nil => cases hmonth
    | cons c ms =>
      obtain ⟨b, bs, hc⟩ := exists_first_byte c
      rw [charBytes_cons, hc, List.cons_append, List.cons_append] at hr
      obtain ⟨rfl, -⟩ := List.cons.inj hr
      have hletter : c = 'W' := Char.toNat_inj.1 (toNat_eq_of_head hc (by decide)).1
      exact absurd (congrArg some hletter) hweek
  next r _ =>
    obtain ⟨⟨month, r⟩, hmonths, h⟩ := Option.bind_eq_some_iff.1 h
    obtain ⟨-, rfl, rfl⟩ := exists_padded_of_number? (by decide) hmonth hmonths
    simp only [hyphen?, Option.bind_eq_bind, Option.bind_some] at h
    obtain ⟨⟨day, r⟩, hdays, hmake⟩ := Option.bind_eq_some_iff.1 h
    obtain ⟨-, rfl, rfl⟩ := exists_padded_of_number? (by decide) hday hdays
    unfold Date.make? at hmake
    split at hmake
    next =>
      cases hmake
      simp [Date.toText]
    next => cases hmake

end TableQuery.Iso
