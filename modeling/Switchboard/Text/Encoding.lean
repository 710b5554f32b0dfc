/-!
# The UTF-8 bytes of a text

The bytes of a text's UTF-8 encoding are the encodings of its characters one after another
(`toUTF8_toList`). An ASCII character is encoded as its own code, and every other character as a
sequence that starts with a byte of at least `0x80`.
-/

namespace Switchboard

/-! ## Characters -/

theorem utf8EncodeChar_of_lt {c : Char} (hc : c.toNat < 128) :
    String.utf8EncodeChar c = [UInt8.ofNat c.toNat] := by
  have hle : c.val.toNat ≤ 0x7f := by simp only [Char.toNat] at hc; omega
  simp only [String.utf8EncodeChar]
  rw [if_pos hle]
  rfl

/-- Every character past ASCII is encoded starting with a byte of at least `0x80`. -/
theorem head_utf8EncodeChar_of_ge {c : Char} (hc : 128 ≤ c.toNat) :
    ∃ b rest, String.utf8EncodeChar c = b :: rest ∧ 128 ≤ b.toNat := by
  have hgt : ¬ c.val.toNat ≤ 0x7f := by simp only [Char.toNat] at hc; omega
  simp only [String.utf8EncodeChar]
  rw [if_neg hgt]
  -- two, three or four bytes: the first carries the length in its top bits
  split
  · exact ⟨_, _, rfl, by simp only [UInt8.toNat_ofNat']; omega⟩
  · split
    · exact ⟨_, _, rfl, by simp only [UInt8.toNat_ofNat']; omega⟩
    · exact ⟨_, _, rfl, by simp only [UInt8.toNat_ofNat']; omega⟩

theorem toNat_charOfNat_of_lt {n : Nat} (hn : n < 128) : (Char.ofNat n).toNat = n := by
  have hvalid : n.isValidChar := Or.inl (by omega)
  rw [Char.ofNat, dif_pos hvalid]
  rfl

/-! ## Byte arrays as lists -/

theorem ByteArray.toList_loop_eq (bs : ByteArray) (i : Nat) (r : List UInt8) :
    ByteArray.toList.loop bs i r = r.reverse ++ bs.data.toList.drop i := by
  fun_induction ByteArray.toList.loop bs i r with
  | case1 i r h ih =>
    have hi : i < bs.data.toList.length := by simpa using h
    rw [ih, List.drop_eq_getElem_cons (l := bs.data.toList) hi]
    simp [ByteArray.get!, h]
  | case2 i r h =>
    rw [List.drop_eq_nil_of_le (by simpa using Nat.le_of_not_lt h)]
    simp

theorem ByteArray.toList_eq_data_toList (bs : ByteArray) : bs.toList = bs.data.toList := by
  simp [ByteArray.toList, ByteArray.toList_loop_eq]

/-! ## Texts -/

/-- The UTF-8 bytes of a text are those of its characters, one after another. -/
theorem toUTF8_toList (t : String) : t.toUTF8.toList = t.toList.flatMap String.utf8EncodeChar := by
  rw [ByteArray.toList_eq_data_toList, String.toUTF8_eq_toByteArray, ← String.utf8Encode_toList,
    List.utf8Encode, List.toList_data_toByteArray]

end Switchboard
