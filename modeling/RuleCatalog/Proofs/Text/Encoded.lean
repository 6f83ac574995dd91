import Mathlib.Tactic.SplitIfs
import RuleCatalog.Text.Utf8

/-! # Texts as bytes

The bytes of a text are read as the characters of the text, without a gap, and as the text itself.
-/

namespace RuleCatalog.Text

theorem fromUTF8?_toUTF8 (s : String) : String.fromUTF8? s.toUTF8 = some s :=
  dif_pos s.isValidUTF8

/-- The characters that are left after some were read. -/
theorem glyphsFrom_utf8Encode (before after : List Char) :
    glyphsFrom (before ++ after).utf8Encode before.utf8Encode.size = after.map some := by
  -- the place from which characters are read is the size of those before
  induction after generalizing before with
  | nil => rw [glyphsFrom, dif_neg (by simp), List.map_nil]
  | cons c after ih =>
    have first :
        (before ++ c :: after).utf8Encode.utf8DecodeChar? before.utf8Encode.size = some c := by
      rw [ByteArray.utf8DecodeChar?_eq_utf8DecodeChar?_extract, List.utf8Encode_append,
        ByteArray.extract_append_eq_right rfl (by simp), List.utf8DecodeChar?_utf8Encode_cons]
    have inside : before.utf8Encode.size < (before ++ c :: after).utf8Encode.size :=
      ByteArray.lt_size_of_isSome_utf8DecodeChar? (Option.isSome_iff_exists.mpr ⟨c, first⟩)
    have size : before.utf8Encode.size + c.utf8Size = (before ++ [c]).utf8Encode.size := by
      simp [List.utf8Encode_singleton]
    have step := ih (before ++ [c])
    rw [List.append_assoc, List.singleton_append] at step
    rw [glyphsFrom, dif_pos inside]
    simp only [first, size, step, List.map_cons]

/-- The bytes of a text have no gaps. -/
theorem glyphs_toUTF8 (s : String) : glyphs s.toUTF8 = glyphsOf s := by
  have whole := glyphsFrom_utf8Encode [] s.toList
  rw [List.nil_append, String.utf8Encode_toList] at whole
  exact whole

/-! ## Bytes that are characters -/

/-- A byte below 128 is a character of its own: no other character has it among its bytes. -/
theorem toNat_of_mem_utf8EncodeChar {byte : UInt8} {c : Char}
    (present : byte ∈ String.utf8EncodeChar c) (low : byte.toNat < 128) :
    c.toNat = byte.toNat := by
  have number : c.val.toNat = c.toNat := rfl
  simp only [String.utf8EncodeChar, number] at present
  split_ifs at present with one two three <;>
    simp only [List.mem_cons, List.not_mem_nil, or_false] at present
  · rw [present, UInt8.toNat_ofNat']
    omega
  all_goals
    exfalso
    rcases present with rfl | present
    · rw [UInt8.toNat_ofNat'] at low
      omega
  · rw [present, UInt8.toNat_ofNat'] at low
    omega
  · rcases present with rfl | rfl <;> rw [UInt8.toNat_ofNat'] at low <;> omega
  · rcases present with rfl | rfl | rfl <;> rw [UInt8.toNat_ofNat'] at low <;> omega

theorem toList_toUTF8 (s : String) :
    s.toUTF8.data.toList = s.toList.flatMap String.utf8EncodeChar := by
  rw [String.toUTF8_eq_toByteArray, ← String.utf8Encode_toList, List.utf8Encode,
    List.toList_data_toByteArray]

theorem exists_of_mem_toUTF8 {byte : UInt8} {s : String} (present : byte ∈ s.toUTF8.data.toList)
    (low : byte.toNat < 128) : ∃ c ∈ s.toList, c.toNat = byte.toNat := by
  rw [toList_toUTF8, List.mem_flatMap] at present
  obtain ⟨c, given, present⟩ := present
  exact ⟨c, given, toNat_of_mem_utf8EncodeChar present low⟩

end RuleCatalog.Text
