import Mathlib.Data.String.Basic
import RuleCatalog.Proofs.Text.Encoded

/-! # The order of texts

Texts are ordered by their characters, and that is the order of their bytes as well: of two
characters the earlier one has the earlier bytes, and none has bytes with which another one begins.
-/

namespace RuleCatalog.Text

/-- The bytes of an earlier character come first, whatever follows them. -/
theorem utf8EncodeChar_append_lt {c d : Char} (earlier : c < d) (rest rest' : List UInt8) :
    String.utf8EncodeChar c ++ rest < String.utf8EncodeChar d ++ rest' := by
  have numbers : c.val.toNat < d.val.toNat := UInt32.lt_iff_toNat_lt.mp (Char.lt_def.mp earlier)
  have bound : d.val.toNat < 0x110000 := d.valid.elim (Nat.lt_trans · (by decide)) And.right
  simp only [String.utf8EncodeChar]
  generalize c.val.toNat = n at numbers ⊢
  generalize d.val.toNat = m at numbers bound ⊢
  -- the number of bytes grows with the character, and with it the first byte
  split_ifs <;>
    simp only [List.cons_append, List.nil_append, List.cons_lt_cons_iff, UInt8.lt_iff_toNat_lt,
      ← UInt8.toNat_inj, UInt8.toNat_ofNat'] <;>
    simp (disch := omega) only [Nat.mod_eq_of_lt] <;>
    omega

theorem flatMap_utf8EncodeChar_lt {cs ds : List Char} (earlier : cs < ds) :
    cs.flatMap String.utf8EncodeChar < ds.flatMap String.utf8EncodeChar := by
  induction earlier with
  | nil =>
    rename_i d ds
    cases written : String.utf8EncodeChar d with
    | nil => exact absurd written String.utf8EncodeChar_ne_nil
    | cons byte bytes =>
      rw [List.flatMap_cons, written]
      exact .nil
  | cons _ ih =>
    rename_i c cs ds _
    rw [List.flatMap_cons, List.flatMap_cons]
    exact List.append_left_lt ih
  | rel earlier => exact utf8EncodeChar_append_lt earlier _ _

/-- Texts are in order if and only if their bytes are. -/
theorem lt_iff_bytes_lt {s t : String} : s < t ↔ s.toUTF8.data.toList < t.toUTF8.data.toList := by
  have mono {s t : String} (earlier : s < t) : s.toUTF8.data.toList < t.toUTF8.data.toList := by
    rw [toList_toUTF8, toList_toUTF8]
    exact flatMap_utf8EncodeChar_lt (String.lt_iff_toList_lt.mp earlier)
  refine ⟨mono, fun earlier => ?_⟩
  by_contra other
  rcases (not_lt.mp other).lt_or_eq with later | rfl
  · exact List.lt_asymm earlier (mono later)
  · exact List.lt_irrefl _ earlier

end RuleCatalog.Text
