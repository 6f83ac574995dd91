import RuleCatalog.Archive.Gzip

/-! # Unpacking what was packed

Packed bytes are unpacked as they were, and nothing is missing after them.
-/

namespace RuleCatalog.Archive

/-! ## Blocks that hold bytes as they are -/

namespace Inflate

theorem foldl_push (bytes : List UInt8) (output : ByteArray) :
    (bytes.foldl ByteArray.push output).data.toList = output.data.toList ++ bytes := by
  induction bytes generalizing output with
  | nil => simp
  | cons byte bytes ih => simp [ih, ByteArray.data_push]

theorem word16_littleEndian {n : Nat} (fits : n ≤ 65535) :
    word16 (UInt8.ofNat n) (UInt8.ofNat (n / 256)) = n := by
  simp only [word16, UInt8.toNat_ofNat']
  omega

/-- The bytes of a block, between what was unpacked before and what follows. -/
theorem stored_block {bytes : List UInt8} (fits : bytes.length ≤ Gzip.blockSize)
    (output : ByteArray) (ahead : List Bool) (rest : List UInt8) :
    stored output ⟨ahead, Gzip.littleEndian 2 bytes.length ++
        Gzip.littleEndian 2 (65535 - bytes.length) ++ (bytes ++ rest)⟩ =
      ⟨bytes.foldl ByteArray.push output, .ok (.ofBytes rest)⟩ := by
  have count := word16_littleEndian fits
  have check : word16 (UInt8.ofNat (65535 - bytes.length))
      (UInt8.ofNat ((65535 - bytes.length) / 256)) = 65535 - bytes.length :=
    word16_littleEndian (Nat.sub_le ..)
  simp only [stored, Bits.aligned, Gzip.littleEndian, List.cons_append, List.nil_append, count,
    check, ne_eq, not_true_eq_false, if_false, List.take_left, if_true, List.drop_left]

theorem next_flag (last : Bool) (bytes : List UInt8) :
    (Bits.ofBytes ((if last then 1 else 0) :: bytes)).next =
      .ok (last, ⟨List.replicate 7 false, bytes⟩) := by
  cases last <;> rfl

/-- A block that holds bytes as they are, and whether it is the last one. -/
theorem blocks_block {bytes : List UInt8} (fits : bytes.length ≤ Gzip.blockSize) (last : Bool)
    (limit : Nat) (output : ByteArray) (rest : List UInt8) :
    blocks (limit + 1) output (.ofBytes (Gzip.block last bytes ++ rest)) =
      if last then ⟨bytes.foldl ByteArray.push output, .ok (.ofBytes rest)⟩
      else blocks limit (bytes.foldl ByteArray.push output) (.ofBytes rest) := by
  have kind : (Bits.mk (List.replicate 7 false) (Gzip.littleEndian 2 bytes.length ++
      Gzip.littleEndian 2 (65535 - bytes.length) ++ (bytes ++ rest))).number 2 =
      .ok (0, ⟨List.replicate 5 false, Gzip.littleEndian 2 bytes.length ++
        Gzip.littleEndian 2 (65535 - bytes.length) ++ (bytes ++ rest)⟩) := rfl
  rw [Gzip.block, List.cons_append, List.append_assoc, blocks, next_flag]
  simp only [block, kind, stored_block fits, Progress.andThen]

/-- Blocks that hold bytes as they are, one after another. -/
theorem blocks_blocks (bytes : List UInt8) {limit : Nat}
    (enough : (Gzip.blocks bytes).length ≤ limit) (output : ByteArray) (rest : List UInt8) :
    blocks limit output (.ofBytes (Gzip.blocks bytes ++ rest)) =
      ⟨bytes.foldl ByteArray.push output, .ok (.ofBytes rest)⟩ := by
  -- a block takes a byte at least, so blocks are read before the limit is reached
  fun_induction Gzip.blocks bytes generalizing limit output with
  | case1 bytes fits =>
    obtain ⟨limit, rfl⟩ : ∃ k, limit = k + 1 :=
      Nat.exists_eq_succ_of_ne_zero (by simp only [Gzip.block, List.length_cons] at enough; omega)
    rw [blocks_block fits, if_pos rfl]
  | case2 bytes more ih =>
    rw [List.length_append, Gzip.block, List.length_cons] at enough
    obtain ⟨limit, rfl⟩ : ∃ k, limit = k + 1 := Nat.exists_eq_succ_of_ne_zero (by omega)
    have full : (bytes.take Gzip.blockSize).length ≤ Gzip.blockSize := List.length_take_le ..
    rw [List.append_assoc, blocks_block full, if_neg Bool.false_ne_true, ih (by omega),
      ← List.foldl_append, List.take_append_drop]

end Inflate

namespace Gzip

/-- Unpacking gives back the bytes that were packed, and finds nothing missing or wrong. -/
theorem unpack_pack (bytes : List UInt8) : unpack (pack bytes) = ⟨bytes, true⟩ := by
  have packed : afterHeader (pack bytes) = some (blocks bytes ++ trailer bytes) := by
    rw [pack, List.append_assoc]
    rfl
  have run : Inflate.run (blocks bytes ++ trailer bytes) =
      ⟨bytes.foldl ByteArray.push .empty, .ok (.ofBytes (trailer bytes))⟩ := by
    apply Inflate.blocks_blocks
    simp only [Bits.size, Bits.ofBytes, List.length_append]
    omega
  have unpacked : (bytes.foldl ByteArray.push .empty).data.toList = bytes := by
    rw [Inflate.foldl_push]
    rfl
  simp only [unpack, packed, run, unpacked, Bits.aligned, Bits.ofBytes]
  rw [List.isPrefixOf_iff_prefix.mpr List.prefix_rfl]

end Gzip

end RuleCatalog.Archive
