import RuleCatalog.Archive.Pack
import RuleCatalog.Proofs.Archive.Fields

/-! # Reading headers

A header that was made fills one block, is intact, and says what it was made to say.
-/

namespace RuleCatalog.Archive.Header

theorem slice_eq {h : Header} (before : List UInt8) {field after : List UInt8} {start width : Nat}
    (whole : h.bytes = before ++ (field ++ after)) (place : before.length = start)
    (filling : field.length = width) : h.slice start width = field := by
  rw [slice, whole, List.drop_left' place, List.take_left' filling]

theorem byteSum_le (bytes : List UInt8) : byteSum bytes ≤ 255 * bytes.length := by
  induction bytes with
  | nil => exact Nat.le_refl 0
  | cons byte bytes ih =>
    have small := byte.toNat_lt
    simp only [byteSum, List.map_cons, List.foldr_cons, List.length_cons] at ih ⊢
    omega

/-! ## The parts of a header -/

/-- What stands in front of the check sum. -/
def front (name : List UInt8) (size : Nat) : List UInt8 :=
  Field.ofText 100 name ++ Field.ofOctal 8 permissions ++ List.replicate 16 0 ++
    Field.ofNumber 12 size ++ Field.ofOctal 12 0

/-- What stands after the check sum. -/
def back (flag : Char) : List UInt8 :=
  UInt8.ofNat flag.toNat :: (List.replicate 100 0 ++ gnuMagic ++ List.replicate 247 0)

/-- The check sum. -/
def total (name : List UInt8) (flag : Char) (size : Nat) : Nat :=
  byteSum (front name size) + byteSum (back flag) + sumWidth * 32

section

variable (name : List UInt8) (flag : Char) (size : Nat)

theorem make_bytes : (make name flag size).bytes =
    front name size ++ (Field.ofOctal sumWidth (total name flag size) ++ back flag) := by
  rw [← List.append_assoc]
  rfl

theorem front_length : (front name size).length = sumStart := by
  simp only [front, List.length_append, Field.ofText_length,
    Field.ofOctal_length (by decide : 1 ≤ 8), Field.ofOctal_length (by decide : 1 ≤ 12),
    Field.ofNumber_length (by decide : 9 ≤ 12), List.length_replicate]
  rfl

theorem back_length : (back flag).length = 356 := by
  simp only [back, List.length_cons, List.length_append, List.length_replicate]
  rfl

theorem sumField_length (x : Nat) : (Field.ofOctal sumWidth x).length = sumWidth :=
  Field.ofOctal_length (by decide) x

theorem make_length : (make name flag size).bytes.length = blockSize := by
  rw [make_bytes, List.length_append, List.length_append, front_length, sumField_length,
    back_length]
  rfl

/-! ## The fields of a header -/

theorem name_make : (make name flag size).name = Field.ofText 100 name :=
  slice_eq [] (by rw [make_bytes, front]; simp only [List.append_assoc]; rfl) rfl
    (Field.ofText_length ..)

theorem sizeField_make : (make name flag size).sizeField = Field.ofNumber 12 size :=
  slice_eq (Field.ofText 100 name ++ (Field.ofOctal 8 permissions ++ List.replicate 16 0))
    (by rw [make_bytes, front]; simp only [List.append_assoc]; rfl)
    (by simp only [List.length_append, Field.ofText_length,
          Field.ofOctal_length (by decide : 1 ≤ 8), List.length_replicate])
    (Field.ofNumber_length (by decide) size)

theorem sumField_make :
    (make name flag size).sumField = Field.ofOctal sumWidth (total name flag size) :=
  slice_eq _ (make_bytes ..) (front_length ..) (sumField_length _)

/-- A field after the check sum. -/
theorem slice_back (start width : Nat) :
    (make name flag size).slice (sumStart + sumWidth + start) width =
      ((back flag).drop start).take width := by
  have place : (front name size ++ Field.ofOctal sumWidth (total name flag size)).length =
      sumStart + sumWidth := by
    rw [List.length_append, front_length, sumField_length]
  rw [slice, make_bytes, ← List.append_assoc, ← List.drop_drop, List.drop_left' place]

theorem typeFlag_make : (make name flag size).typeFlag = UInt8.ofNat flag.toNat :=
  congrArg (List.headD · 0) (slice_back name flag size 0 1)

theorem magic_make : (make name flag size).magic = gnuMagic := slice_back name flag size 101 8

/-- A header that was made is not taken for the end of the archive. -/
theorem isBlank_make : (make name flag size).isBlank = false := by
  have nonzero : (117 : UInt8) ∈ (make name flag size).magic := by
    rw [magic_make]
    decide
  have present := List.mem_of_mem_drop (List.mem_of_mem_take nonzero)
  rw [isBlank, List.all_eq_false]
  exact ⟨117, present, by decide⟩

/-! ## What a header says -/

theorem sum_make : (make name flag size).sum = total name flag size := by
  rw [sum, make_bytes, List.take_left' (front_length ..), ← List.append_assoc, List.drop_left']
  · rfl
  · rw [List.length_append, front_length, sumField_length]

theorem intact_make : (make name flag size).intact = true := by
  have low : total name flag size < 8 ^ (sumWidth - 1) := by
    have inFront := byteSum_le (front name size)
    have inBack := byteSum_le (back flag)
    rw [front_length] at inFront
    rw [back_length] at inBack
    simp only [total, sumStart, sumWidth] at *
    omega
  have bounded : total name flag size < Field.bound := Nat.lt_of_lt_of_le low (by decide)
  rw [intact, sumField_make, sum_make, Field.octal?_ofOctal low (by decide) bounded,
    beq_self_eq_true]

end

theorem size?_make {size : Nat} (bounded : size < Field.bound) (name : List UInt8) (flag : Char) :
    (make name flag size).size? = some size := by
  rw [size?, sizeField_make, Field.number?_ofNumber (by decide) bounded]

theorem isGnu_make (name : List UInt8) (flag : Char) (size : Nat) :
    (make name flag size).isGnu = true :=
  beq_iff_eq.mpr (magic_make ..)

theorem path_make {name : List UInt8} (fits : name.length ≤ nameWidth) (free : 0 ∉ name)
    (flag : Char) (size : Nat) : (make name flag size).path = name := by
  have otherFormat : (make name flag size).isUstar = false := by
    rw [isUstar, magic_make]
    decide
  simp only [path, otherFormat, Bool.false_eq_true, if_false, name_make]
  exact Field.text_ofText fits free

theorem kind_file (name : List UInt8) (size : Nat) : (make name '0' size).kind = .file := by
  rw [kind, typeFlag_make]
  rfl

theorem kind_longName (name : List UInt8) (size : Nat) :
    (make name 'L' size).kind = .longName := by
  rw [kind, typeFlag_make, isGnu_make]
  rfl

end RuleCatalog.Archive.Header
