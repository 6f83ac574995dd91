import Mathlib.Algebra.Group.Nat.Defs
import RuleCatalog.Archive.Field
import RuleCatalog.Proofs.Text.Encoded

/-! # Reading fields of headers

A text or a number that was put into a field is read from it as it was.
-/

namespace RuleCatalog.Archive.Field

/-! ## Texts -/

theorem ofText_length (width : Nat) (bytes : List UInt8) : (ofText width bytes).length = width := by
  simp only [ofText, List.length_append, List.length_take, List.length_replicate]
  omega

theorem text_append {bytes : List UInt8} (free : 0 ∉ bytes) (rest : List UInt8) :
    text (bytes ++ rest) = bytes ++ text rest :=
  List.takeWhile_append_of_pos fun _ present => bne_iff_ne.mpr fun zero => free (zero ▸ present)

theorem text_zeros (n : Nat) : text (List.replicate n 0) = [] := by
  cases n <;> rfl

/-- A text that fits its field and is free of zero bytes is read as it was. -/
theorem text_ofText {width : Nat} {bytes : List UInt8} (fits : bytes.length ≤ width)
    (free : 0 ∉ bytes) : text (ofText width bytes) = bytes := by
  simp only [ofText, List.take_of_length_le fits]
  rw [text_append free, text_zeros, List.append_nil]

/-! ## Numbers in octal digits -/

/-- The values of the lowest `n` octal digits of a number. -/
def octalValues : Nat → Nat → List Nat
  | 0, _ => []
  | n + 1, x => octalValues n (x / 8) ++ [x % 8]

/-- A digit as a character and as a byte. -/
def digitChar (d : Nat) : Char := Char.ofNat (48 + d)
def digitByte (d : Nat) : UInt8 := UInt8.ofNat (48 + d)

theorem octalDigits_eq (n x : Nat) : octalDigits n x = (octalValues n x).map digitByte := by
  induction n generalizing x with
  | zero => rfl
  | succ n ih => rw [octalDigits, octalValues, List.map_append, ih]; rfl

theorem octalValues_length (n x : Nat) : (octalValues n x).length = n := by
  induction n generalizing x with
  | zero => rfl
  | succ n ih => rw [octalValues, List.length_append, ih, List.length_singleton]

theorem ofOctal_length {width : Nat} (room : 1 ≤ width) (x : Nat) :
    (ofOctal width x).length = width := by
  rw [ofOctal, octalDigits_eq, List.length_append, List.length_map, octalValues_length]
  exact Nat.sub_add_cancel room

theorem octalValues_small {n x : Nat} : ∀ d ∈ octalValues n x, d < 8 := by
  induction n generalizing x with
  | zero => exact fun _ present => absurd present List.not_mem_nil
  | succ n ih =>
    intro d present
    rw [octalValues, List.mem_append, List.mem_singleton] at present
    obtain higher | rfl := present
    · exact ih d higher
    · exact Nat.mod_lt _ (by omega)

theorem digitChar_utf8 : ∀ d < 8, [digitChar d].utf8Encode.data.toList = [digitByte d] := by decide

theorem digitChar_value : ∀ d < 8, digit? 8 (digitChar d) = some d := by decide

theorem digitChar_plain : ∀ d < 8, Text.isBlank (digitChar d) = false ∧ digitChar d ≠ '+' := by
  decide

theorem digitByte_plain : ∀ d < 8, digitByte d ≠ 0 ∧ (digitByte d).toNat.testBit 7 = false := by
  decide

theorem map_digitChar_utf8 {ds : List Nat} (small : ∀ d ∈ ds, d < 8) :
    (ds.map digitChar).utf8Encode.data.toList = ds.map digitByte := by
  induction ds with
  | nil => rfl
  | cons d ds ih =>
    rw [List.forall_mem_cons] at small
    rw [List.map_cons, List.map_cons, ← List.singleton_append, List.utf8Encode_append,
      ByteArray.data_append, Array.toList_append, digitChar_utf8 d small.1, ih small.2]
    rfl

/-- Taking in the digits of a number after others. -/
theorem foldlM_digits {n x : Nat} (fits : x < 8 ^ n) (before : Nat) :
    ((octalValues n x).map digitChar).foldlM (fun n c => do return n * 8 + (← digit? 8 c)) before =
      some (before * 8 ^ n + x) := by
  -- the digits come highest first, so the last of them is taken off
  induction n generalizing x with
  | zero =>
    rw [Nat.pow_zero, Nat.lt_one_iff] at fits
    simp [octalValues, fits]
  | succ n ih =>
    have higher : x / 8 < 8 ^ n := Nat.div_lt_of_lt_mul (by rw [Nat.pow_succ] at fits; omega)
    have value : (before * 8 ^ n + x / 8) * 8 + x % 8 = before * 8 ^ (n + 1) + x := by
      rw [Nat.pow_succ, ← Nat.mul_assoc]
      omega
    rw [octalValues, List.map_append, List.foldlM_append, ih higher]
    simp [digitChar_value _ (Nat.mod_lt x (by omega : 8 > 0)), value]

/-- Digits without a sign. -/
theorem digits?_unsigned {base x : Nat} {c : Char} {cs : List Char} (unsigned : c ≠ '+')
    (value : (c :: cs).foldlM (fun n c => do return n * base + (← digit? base c)) 0 = some x)
    (bounded : x < bound) : digits? base (c :: cs) = some x := by
  rw [digits?, if_neg (by simp), value]
  · exact if_pos bounded
  · exact fun _ signed => unsigned (List.cons.inj signed).1

theorem digits?_digits {n x : Nat} (fits : x < 8 ^ n) (nonempty : 0 < n) (bounded : x < bound) :
    digits? 8 ((octalValues n x).map digitChar) = some x := by
  have value := foldlM_digits fits 0
  have length := octalValues_length n x
  have small := octalValues_small (n := n) (x := x)
  rw [Nat.zero_mul, Nat.zero_add] at value
  cases ds : octalValues n x with
  | nil => rw [ds, List.length_nil] at length; omega
  | cons d rest =>
    rw [ds] at small value
    exact digits?_unsigned (digitChar_plain d (small d List.mem_cons_self)).2 value bounded

theorem trimmed_eq {cs : List Char} (solid : ∀ c ∈ cs, Text.isBlank c = false) :
    trimmed cs = cs := by
  have keep : ∀ ds : List Char, (∀ c ∈ ds, Text.isBlank c = false) →
      ds.dropWhile Text.isBlank = ds := by
    intro ds none
    cases ds with
    | nil => rfl
    | cons c ds => exact List.dropWhile_cons_of_neg (by rw [none c List.mem_cons_self]; decide)
  rw [trimmed, keep cs solid, keep _ fun c present => solid c (List.mem_reverse.mp present),
    List.reverse_reverse]

/-- A number is read as it was if there is room for its digits. -/
theorem octal?_ofOctal {width x : Nat} (fits : x < 8 ^ (width - 1)) (room : 1 < width)
    (bounded : x < bound) : octal? (ofOctal width x) = some x := by
  have digits : text (ofOctal width x) = (octalValues (width - 1) x).map digitByte := by
    rw [ofOctal, octalDigits_eq, text_append, show text [0] = [] from rfl, List.append_nil]
    intro present
    obtain ⟨d, given, zero⟩ := List.mem_map.mp present
    exact (digitByte_plain d (octalValues_small d given)).1 zero
  have encoded : (⟨((octalValues (width - 1) x).map digitByte).toArray⟩ : ByteArray) =
      (String.ofList ((octalValues (width - 1) x).map digitChar)).toUTF8 := by
    rw [← map_digitChar_utf8 octalValues_small]
    rfl
  have solid : ∀ c ∈ (octalValues (width - 1) x).map digitChar, Text.isBlank c = false := by
    intro c present
    obtain ⟨d, given, rfl⟩ := List.mem_map.mp present
    exact (digitChar_plain d (octalValues_small d given)).1
  rw [octal?, digits, encoded, Text.fromUTF8?_toUTF8]
  simp only [Option.bind_some, bind, String.toList_ofList, trimmed_eq solid]
  exact digits?_digits fits (by omega) bounded

/-! ## Numbers in octal digits or in bytes -/

theorem bigEndianBytes_length (n x : Nat) : (bigEndianBytes n x).length = n := by
  induction n generalizing x with
  | zero => rfl
  | succ n ih => rw [bigEndianBytes, List.length_append, ih, List.length_singleton]

theorem ofNumber_length {width : Nat} (room : 9 ≤ width) (x : Nat) :
    (ofNumber width x).length = width := by
  rw [ofNumber]
  split
  · exact ofOctal_length (by omega) x
  · rw [List.length_cons, List.length_append, List.length_replicate, bigEndianBytes_length]
    omega

theorem bigEndian_bigEndianBytes {n x : Nat} (fits : x < 256 ^ n) :
    bigEndian (bigEndianBytes n x) = x := by
  induction n generalizing x with
  | zero =>
    rw [Nat.pow_zero, Nat.lt_one_iff] at fits
    rw [fits]
    rfl
  | succ n ih =>
    have higher : x / 256 < 256 ^ n := Nat.div_lt_of_lt_mul (by rw [Nat.pow_succ] at fits; omega)
    have step := ih higher
    rw [bigEndian] at step ⊢
    rw [bigEndianBytes, List.foldl_append, step, List.foldl_cons, List.foldl_nil,
      UInt8.toNat_ofNat']
    omega

theorem number?_of_low {first : UInt8} {rest : List UInt8} (low : first.toNat.testBit 7 = false) :
    number? (first :: rest) = octal? (first :: rest) := by
  rw [number?, if_neg (by rw [low]; decide)]

/-- Every number within the bound is read as it was. -/
theorem number?_ofNumber {width x : Nat} (room : 9 ≤ width) (bounded : x < bound) :
    number? (ofNumber width x) = some x := by
  rw [ofNumber]
  split
  · rename_i fits
    have read := octal?_ofOctal fits (by omega) bounded
    obtain ⟨n, rfl⟩ : ∃ n, width = n + 2 := ⟨width - 2, by omega⟩
    cases ds : octalValues (n + 1) x with
    | nil =>
      have := octalValues_length (n + 1) x
      rw [ds, List.length_nil] at this
      omega
    | cons d rest =>
      have small := octalValues_small d (ds ▸ List.mem_cons_self)
      rw [ofOctal, show n + 2 - 1 = n + 1 from rfl, octalDigits_eq, ds] at read ⊢
      rw [← read]
      exact number?_of_low (digitByte_plain d small).2
  · have last : (List.replicate (width - 9) (0 : UInt8) ++ bigEndianBytes 8 x).length + 1 - 8 =
        width - 9 + 1 := by
      rw [List.length_append, List.length_replicate, bigEndianBytes_length]
      omega
    rw [number?, if_pos (by decide), List.length_cons, last, List.drop_succ_cons,
      List.drop_left' (List.length_replicate ..), bigEndian_bigEndianBytes]
    exact Nat.lt_of_lt_of_eq bounded (by decide)

end RuleCatalog.Archive.Field
