import TableQuery.Http.Message
import TableQuery.Proofs.Text.Trimmed

/-!
# ASCII texts

A text of ASCII characters has one byte for each of them (`Text.utf8Bytes_ascii`), and is read back from these
(`Text.decodeChars_ascii`). Without percent signs there is nothing to unescape in it (`Http.unescape_plain`).
-/

set_option autoImplicit false

namespace TableQuery

namespace Text

def isAscii (c : Char) : Prop := c.toNat < 128

instance (c : Char) : Decidable (isAscii c) := inferInstanceAs (Decidable (_ < _))

/-! ## Bytes -/

theorem toList_loop_eq (b : ByteArray) (i : Nat) (r : List UInt8) :
    ByteArray.toList.loop b i r = r.reverse ++ b.data.toList.drop i := by
  fun_induction ByteArray.toList.loop b i r with
  | case1 i r h ih =>
    have hi : i < b.data.toList.length := by simpa using h
    rw [ih, List.reverse_cons, List.append_assoc, List.singleton_append, List.drop_eq_getElem_cons hi]
    congr 2
    simp [ByteArray.get!, getElem!_pos, h]
  | case2 i r h =>
    have hi : b.data.toList.length ≤ i := by simpa using h
    rw [List.drop_eq_nil_of_le hi, List.append_nil]

theorem toList_eq_data (b : ByteArray) : b.toList = b.data.toList := by
  rw [ByteArray.toList, toList_loop_eq]
  rfl

theorem toList_utf8Encode (cs : List Char) :
    cs.utf8Encode.toList = cs.flatMap String.utf8EncodeChar := by
  rw [toList_eq_data]
  induction cs with
  | nil => rfl
  | cons c cs ih =>
    rw [List.utf8Encode_cons, ByteArray.toList_data_append, ih, List.utf8Encode_singleton,
      List.toList_data_toByteArray, List.flatMap_cons]

theorem utf8EncodeChar_ascii {c : Char} (h : isAscii c) : (String.utf8EncodeChar c).map (·.toNat) = [c.toNat] := by
  have hsize : c.utf8Size = 1 := by
    rw [Char.utf8Size, if_pos]
    exact Nat.le_of_lt_succ h
  rw [String.utf8EncodeChar_eq_singleton hsize, List.map_singleton]
  congr 1
  exact Nat.mod_eq_of_lt (Nat.lt_trans h (by decide))

/-- **An ASCII text has one byte for each character.** -/
theorem utf8Bytes_ascii {cs : List Char} (h : ∀ c ∈ cs, isAscii c) :
    utf8Bytes (String.ofList cs) = cs.map Char.toNat := by
  rw [utf8Bytes, String.toUTF8_eq_toByteArray, String.toByteArray_ofList, toList_utf8Encode]
  induction cs with
  | nil => rfl
  | cons c cs ih =>
    rw [List.flatMap_cons, List.map_append, utf8EncodeChar_ascii (h c List.mem_cons_self),
      ih fun d hd => h d (List.mem_cons_of_mem _ hd), List.map_cons, List.singleton_append]

theorem decodeChars_ascii {cs : List Char} (h : ∀ c ∈ cs, isAscii c) : decodeChars (cs.map Char.toNat) = cs := by
  induction cs with
  | nil => rw [List.map_nil, decodeChars]
  | cons c cs ih =>
    have hc : c.toNat < 128 := h c List.mem_cons_self
    rw [List.map_cons, decodeChars, if_pos hc, Char.ofNat_toNat, ih fun d hd => h d (List.mem_cons_of_mem _ hd)]

end Text

/-! ## Escapes -/

namespace Http

theorem unescapedBytes_plain {cs : List Char} (h : ∀ c ∈ cs, Text.isAscii c ∧ c ≠ '%') :
    unescapedBytes cs = cs.map Char.toNat := by
  induction cs with
  | nil => rw [unescapedBytes, List.map_nil]
  | cons c cs ih =>
    obtain ⟨hascii, hc⟩ := h c List.mem_cons_self
    have hbytes : Text.utf8Bytes c.toString = [c.toNat] := by
      have hone : ∀ d ∈ [c], Text.isAscii d := fun d hd => List.mem_singleton.1 hd ▸ hascii
      rw [Char.toString, String.singleton_eq_ofList, Text.utf8Bytes_ascii hone, List.map_singleton]
    rw [unescapedBytes, hbytes, ih fun d hd => h d (List.mem_cons_of_mem _ hd), List.singleton_append, List.map_cons]
    rintro a b r rfl
    exact absurd rfl hc

/-- **There is nothing to unescape in an ASCII text without percent signs.** -/
theorem unescape_plain {s : String} (h : ∀ c ∈ s.toList, Text.isAscii c ∧ c ≠ '%') : unescape s = s := by
  rw [unescape, unescapedBytes_plain h, Text.decodeLeniently, Text.decodeChars_ascii fun c hc => (h c hc).1,
    String.ofList_toList]

end Http

end TableQuery
