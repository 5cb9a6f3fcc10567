import NfaWorkbench.Document.Lines
set_option autoImplicit false

/-!
# Documents: text as bytes

A text is encoded character by character, and a line is a text exactly if it is the encoding of one.
The bytes below 128 of an encoding are the characters below 128 of the text, so a line end can only
come from a line end.
-/

namespace NfaWorkbench.Document

/-! ## Arrays of bytes as lists -/

theorem toList_loop_eq (bytes : ByteArray) (i : Nat) (done : List UInt8) :
    ByteArray.toList.loop bytes i done = done.reverse ++ bytes.data.toList.drop i := by
  fun_induction ByteArray.toList.loop bytes i done with
  | case1 i done hlt ih =>
    have hlen : i < bytes.data.toList.length := by simpa using hlt
    have hget : bytes.get! i = bytes.data.toList[i] := by
      cases bytes
      simp only [ByteArray.get!, Array.getElem_toList]
      exact getElem!_pos _ i hlt
    rw [ih, List.drop_eq_getElem_cons hlen, hget]
    simp
  | case2 i done hge =>
    have hlen : bytes.data.toList.length ≤ i := by simpa using hge
    rw [List.drop_eq_nil_of_le hlen, List.append_nil]

theorem toList_eq_data_toList (bytes : ByteArray) : bytes.toList = bytes.data.toList := by
  rw [ByteArray.toList, toList_loop_eq]
  simp

/-! ## Encoding and decoding -/

theorem encode_eq_flatMap (text : String) :
    encode text = text.toList.flatMap String.utf8EncodeChar := by
  rw [encode, String.toUTF8_eq_toByteArray, toList_eq_data_toList, ← String.utf8Encode_toList,
    List.utf8Encode, List.toList_data_toByteArray]

@[simp]
theorem encode_append (text rest : String) :
    encode (text ++ rest) = encode text ++ encode rest := by
  simp [encode_eq_flatMap]

/-- A line is a text exactly if it is the encoding of that text. -/
theorem decodeLine_eq_some_iff {line : List UInt8} {text : String} :
    decodeLine line = some text ↔ line = encode text := by
  rw [decodeLine, String.fromUTF8?]
  constructor
  · intro h
    split at h
    · obtain rfl := Option.some.inj h
      rw [encode, String.toUTF8_eq_toByteArray, toList_eq_data_toList]
      rfl
    · simp at h
  · rintro rfl
    have hbytes : ByteArray.mk (encode text).toArray = text.toByteArray := by
      rw [encode, String.toUTF8_eq_toByteArray, toList_eq_data_toList]
    have hvalid : (ByteArray.mk (encode text).toArray).IsValidUTF8 := by
      rw [hbytes]
      exact text.isValidUTF8
    rw [dif_pos hvalid, Option.some.injEq, ← String.toByteArray_inj]
    exact hbytes

/-! ## Bytes below 128 -/

/-- All bytes of a longer encoding are 128 at least. -/
theorem toNat_eq_of_mem_utf8EncodeChar {c : Char} {b : UInt8} (hb : b.toNat < 128)
    (hmem : b ∈ String.utf8EncodeChar c) : c.toNat = b.toNat := by
  have hbyte : ∀ n, b = UInt8.ofNat n → b.toNat = n % 256 := by
    rintro n rfl
    exact UInt8.toNat_ofNat'
  have hcode : c.toNat = c.val.toNat := rfl
  simp only [String.utf8EncodeChar] at hmem
  split at hmem
  · have hone := hbyte _ (List.mem_singleton.1 hmem)
    omega
  · -- What is left is a leading byte or one of one to three continuation bytes.
    exfalso
    split at hmem
    · simp only [List.mem_cons, List.not_mem_nil, or_false] at hmem
      rcases hmem with h | h <;> have hn := hbyte _ h <;> omega
    · split at hmem
      · simp only [List.mem_cons, List.not_mem_nil, or_false] at hmem
        rcases hmem with h | h | h <;> have hn := hbyte _ h <;> omega
      · simp only [List.mem_cons, List.not_mem_nil, or_false] at hmem
        rcases hmem with h | h | h | h <;> have hn := hbyte _ h <;> omega

/-- A byte below 128 stands for the character with its number. -/
theorem exists_char_of_mem_encode {text : String} {b : UInt8} (hb : b.toNat < 128)
    (hmem : b ∈ encode text) : ∃ c ∈ text.toList, c.toNat = b.toNat := by
  rw [encode_eq_flatMap, List.mem_flatMap] at hmem
  obtain ⟨c, hc, hbyte⟩ := hmem
  exact ⟨c, hc, toNat_eq_of_mem_utf8EncodeChar hb hbyte⟩

end NfaWorkbench.Document
