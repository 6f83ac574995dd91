import RuleCatalog.Archive.Prefix

/-! # Inflating

Unpacking of the deflate format, after RFC 1951. Packed text is a sequence of blocks, each of which
holds bytes as they are or code words that stand for bytes and for repetitions of earlier output.
Unpacking also gives what was unpacked before the packed text turned out to be damaged.
-/

namespace RuleCatalog.Archive.Inflate

/-- What has been unpacked, and what is left to read unless there was a failure. -/
structure Progress where
  output : ByteArray
  rest : Except Failure Bits

/-- Lets another step follow. -/
def Progress.andThen (p : Progress) (next : ByteArray → Bits → Progress) : Progress :=
  match p.rest with
  | .ok b => next p.output b
  | .error _ => p

/-! ## Blocks of bytes -/

/-- The number in two bytes, the lower byte first. -/
def word16 (low high : UInt8) : Nat := low.toNat + 256 * high.toNat

/-- A block that holds its bytes as they are, after their number and its complement. -/
def stored (output : ByteArray) (b : Bits) : Progress :=
  match b.aligned with
  | low :: high :: lowCheck :: highCheck :: bytes =>
    let count := word16 low high
    if word16 lowCheck highCheck ≠ 65535 - count then ⟨output, .error .corrupt⟩
    else
      let taken := bytes.take count
      ⟨taken.foldl ByteArray.push output,
        if taken.length = count then .ok (.ofBytes (bytes.drop count)) else .error .truncated⟩
  | _ => ⟨output, .error .truncated⟩

/-! ## Blocks of code words -/

/-- Base and number of extra bits of each symbol for a length. -/
def lengthSymbols : Array (Nat × Nat) := #[
  (3, 0), (4, 0), (5, 0), (6, 0), (7, 0), (8, 0), (9, 0), (10, 0), (11, 1), (13, 1), (15, 1),
  (17, 1), (19, 2), (23, 2), (27, 2), (31, 2), (35, 3), (43, 3), (51, 3), (59, 3), (67, 4),
  (83, 4), (99, 4), (115, 4), (131, 5), (163, 5), (195, 5), (227, 5), (258, 0)]

/-- Base and number of extra bits of each symbol for a distance. -/
def distanceSymbols : Array (Nat × Nat) := #[
  (1, 0), (2, 0), (3, 0), (4, 0), (5, 1), (7, 1), (9, 2), (13, 2), (17, 3), (25, 3), (33, 4),
  (49, 4), (65, 5), (97, 5), (129, 6), (193, 6), (257, 7), (385, 7), (513, 8), (769, 8),
  (1025, 9), (1537, 9), (2049, 10), (3073, 10), (4097, 11), (6145, 11), (8193, 12), (12289, 12),
  (16385, 13), (24577, 13)]

/-- The number that a symbol of a table stands for, with its extra bits. -/
def extended (table : Array (Nat × Nat)) (symbol : Nat) (b : Bits) :
    Except Failure (Nat × Bits) :=
  match table[symbol]? with
  | none => .error .corrupt
  | some (base, extra) => do
    let (more, b) ← b.number extra
    return (base + more, b)

/-- Repeats output from a distance back. What lies before the start counts as zero bytes. -/
def repeatFrom (distance : Nat) : Nat → ByteArray → ByteArray
  | 0, output => output
  | n + 1, output =>
    let byte := if distance ≤ output.size then output[output.size - distance]?.getD 0 else 0
    repeatFrom distance n (output.push byte)

/-- The symbol that ends a block. -/
def endOfBlock : Nat := 256

/-- The repetition that begins with a symbol for a length. -/
def repetition (distances : PrefixCode) (symbol : Nat) (b : Bits) :
    Except Failure ((Nat × Nat) × Bits) := do
  let (length, b) ← extended lengthSymbols (symbol - (endOfBlock + 1)) b
  let (symbol, b) ← distances.read b
  let (distance, b) ← extended distanceSymbols symbol b
  return ((length, distance), b)

/-- Code words up to the end of the block, at most as many as the first argument says. -/
def words (literals distances : PrefixCode) : Nat → ByteArray → Bits → Progress
  | 0, output, _ => ⟨output, .error .corrupt⟩
  | limit + 1, output, b =>
    match literals.read b with
    | .error e => ⟨output, .error e⟩
    | .ok (symbol, b) =>
      if symbol < endOfBlock then
        words literals distances limit (output.push (UInt8.ofNat symbol)) b
      else if symbol = endOfBlock then ⟨output, .ok b⟩
      else
        match repetition distances symbol b with
        | .error e => ⟨output, .error e⟩
        | .ok ((length, distance), b) =>
          words literals distances limit (repeatFrom distance length output) b

/-- A block of code words. Every word takes at least one bit, so the bits bound their number. -/
def coded (literals distances : PrefixCode) (output : ByteArray) (b : Bits) : Progress :=
  words literals distances (b.size + 1) output b

/-- The lengths of the words of the fixed codes. -/
def fixedLengths : List Nat :=
  List.replicate 144 8 ++ List.replicate 112 9 ++ List.replicate 24 7 ++ List.replicate 8 8

def fixedDistances : List Nat := List.replicate 32 5

/-- The codes that need no description. -/
def fixedCodes : Except Failure (PrefixCode × PrefixCode) := do
  return (← PrefixCode.ofLengths true fixedLengths, ← PrefixCode.ofLengths true fixedDistances)

/-! ## Codes that are described in the block -/

/-- The order in which the lengths of the words for lengths come. -/
def lengthOrder : List Nat := [16, 17, 18, 0, 8, 7, 9, 6, 10, 5, 11, 4, 12, 3, 13, 2, 14, 1, 15]

/-- The next `n` lengths of words for lengths, three bits each. -/
def threeBitLengths : Nat → Bits → Except Failure (List Nat × Bits)
  | 0, b => .ok ([], b)
  | n + 1, b => do
    let (length, b) ← b.number 3
    let (rest, b) ← threeBitLengths n b
    return (length :: rest, b)

/-- The lengths that one word for lengths adds to those before it, which are given in reverse. -/
def lengthRun (before : List Nat) (symbol : Nat) (b : Bits) : Except Failure (List Nat × Bits) :=
  if symbol < 16 then .ok ([symbol], b)
  else if symbol = 16 then
    match before with
    | [] => .error .corrupt
    | last :: _ => do
      let (more, b) ← b.number 2
      return (List.replicate (3 + more) last, b)
  else if symbol = 17 then do
    let (more, b) ← b.number 3
    return (List.replicate (3 + more) 0, b)
  else do
    let (more, b) ← b.number 7
    return (List.replicate (11 + more) 0, b)

/-- Reads `total` lengths with a code for lengths. The lengths so far are given in reverse, and the
first argument bounds how many words are read. -/
def codedLengths (code : PrefixCode) (total : Nat) :
    Nat → List Nat → Bits → Except Failure (List Nat × Bits)
  | 0, _, _ => .error .corrupt
  | limit + 1, before, b =>
    if before.length = total then .ok (before.reverse, b)
    else if total < before.length then .error .corrupt
    else do
      let (symbol, b) ← code.read b
      let (run, b) ← lengthRun before symbol b
      codedLengths code total limit (run ++ before) b

/-- How many symbols the two codes may have. -/
def maxLiterals : Nat := 286
def maxDistances : Nat := 30

/-- The codes described at the start of a block. -/
def describedCodes (b : Bits) : Except Failure ((PrefixCode × PrefixCode) × Bits) := do
  let (literals, b) ← b.number 5
  let (distances, b) ← b.number 5
  let (given, b) ← b.number 4
  let literals := literals + 257
  let distances := distances + 1
  let (lengths, b) ← threeBitLengths (given + 4) b
  if maxLiterals < literals ∨ maxDistances < distances then throw .corrupt
  let placed := lengthOrder.zip lengths
  let code ← PrefixCode.ofLengths false
    ((List.range 19).map fun symbol => (placed.lookup symbol).getD 0)
  let total := literals + distances
  let (lengths, b) ← codedLengths code total (total + 1) [] b
  let literalCode ← PrefixCode.ofLengths true (lengths.take literals)
  let distanceCode ← PrefixCode.ofLengths true (lengths.drop literals)
  return ((literalCode, distanceCode), b)

/-! ## Sequences of blocks -/

/-- One block after its first bit. -/
def block (output : ByteArray) (b : Bits) : Progress :=
  match b.number 2 with
  | .error e => ⟨output, .error e⟩
  | .ok (0, b) => stored output b
  | .ok (1, b) =>
    match fixedCodes with
    | .error e => ⟨output, .error e⟩
    | .ok (literals, distances) => coded literals distances output b
  | .ok (2, b) =>
    match describedCodes b with
    | .error e => ⟨output, .error e⟩
    | .ok ((literals, distances), b) => coded literals distances output b
  | .ok _ => ⟨output, .error .corrupt⟩

/-- Blocks up to the last one, at most as many as the first argument says. The first bit of a block
says whether it is the last one. -/
def blocks : Nat → ByteArray → Bits → Progress
  | 0, output, _ => ⟨output, .error .corrupt⟩
  | limit + 1, output, b =>
    match b.next with
    | .error e => ⟨output, .error e⟩
    | .ok (last, b) =>
      let p := block output b
      if last then p else p.andThen (blocks limit)

/-- Unpacks packed text. Every block takes at least one bit, so the bits bound their number. -/
def run (packed : List UInt8) : Progress :=
  let b := Bits.ofBytes packed
  blocks (b.size + 1) ByteArray.empty b

end RuleCatalog.Archive.Inflate
