import RuleCatalog.Digest.Hex

/-! # SHA-256

The digest by which the files of a bundle are checked, after FIPS 180-4: the padded message is cut
into blocks of 64 bytes, each of which is mixed into eight words of state in 64 rounds.
-/

namespace RuleCatalog.Digest.Sha256

/-- The constants of the rounds: the first 32 bits of the fractional parts of the cube roots of the
first 64 primes. -/
def roundConstants : List UInt32 := [
  0x428a2f98, 0x71374491, 0xb5c0fbcf, 0xe9b5dba5, 0x3956c25b, 0x59f111f1, 0x923f82a4, 0xab1c5ed5,
  0xd807aa98, 0x12835b01, 0x243185be, 0x550c7dc3, 0x72be5d74, 0x80deb1fe, 0x9bdc06a7, 0xc19bf174,
  0xe49b69c1, 0xefbe4786, 0x0fc19dc6, 0x240ca1cc, 0x2de92c6f, 0x4a7484aa, 0x5cb0a9dc, 0x76f988da,
  0x983e5152, 0xa831c66d, 0xb00327c8, 0xbf597fc7, 0xc6e00bf3, 0xd5a79147, 0x06ca6351, 0x14292967,
  0x27b70a85, 0x2e1b2138, 0x4d2c6dfc, 0x53380d13, 0x650a7354, 0x766a0abb, 0x81c2c92e, 0x92722c85,
  0xa2bfe8a1, 0xa81a664b, 0xc24b8b70, 0xc76c51a3, 0xd192e819, 0xd6990624, 0xf40e3585, 0x106aa070,
  0x19a4c116, 0x1e376c08, 0x2748774c, 0x34b0bcb5, 0x391c0cb3, 0x4ed8aa4a, 0x5b9cca4f, 0x682e6ff3,
  0x748f82ee, 0x78a5636f, 0x84c87814, 0x8cc70208, 0x90befffa, 0xa4506ceb, 0xbef9a3f7, 0xc67178f2]

/-- The eight words of state. -/
structure State where
  a : UInt32
  b : UInt32
  c : UInt32
  d : UInt32
  e : UInt32
  f : UInt32
  g : UInt32
  h : UInt32

/-- The state before the first block: the first 32 bits of the fractional parts of the square roots
of the first eight primes. -/
def State.start : State :=
  ⟨0x6a09e667, 0xbb67ae85, 0x3c6ef372, 0xa54ff53a, 0x510e527f, 0x9b05688c, 0x1f83d9ab, 0x5be0cd19⟩

/-- Rotation to the right. -/
def rotr (x : UInt32) (n : UInt32) : UInt32 := (x >>> n) ||| (x <<< (32 - n))

/-- A message padded to whole blocks: a one bit, zeros, and its length in bits. -/
def pad (bytes : ByteArray) : ByteArray :=
  let length := bytes.size
  let zeros := (64 - (length + 9) % 64) % 64
  let bits := UInt64.ofNat (8 * length)
  let padded := (List.range zeros).foldl (fun out _ => out.push 0) (bytes.push 0x80)
  (List.range 8).foldl
    (fun out i => out.push (bits >>> UInt64.ofNat (8 * (7 - i))).toUInt8) padded

/-- The big-endian word at a position. -/
def wordAt (bytes : ByteArray) (i : Nat) : UInt32 :=
  let byte (k : Nat) : UInt32 := (bytes[i + k]?.getD 0).toUInt32
  (byte 0 <<< 24) ||| (byte 1 <<< 16) ||| (byte 2 <<< 8) ||| byte 3

/-- The 64 words that a block is spread to. -/
def schedule (bytes : ByteArray) (start : Nat) : Array UInt32 :=
  let first := (List.range 16).foldl (fun ws k => ws.push (wordAt bytes (start + 4 * k))) #[]
  (List.range 48).foldl (fun ws k =>
    let x := ws.getD (k + 1) 0
    let y := ws.getD (k + 14) 0
    let s0 := rotr x 7 ^^^ rotr x 18 ^^^ (x >>> 3)
    let s1 := rotr y 17 ^^^ rotr y 19 ^^^ (y >>> 10)
    ws.push (ws.getD k 0 + s0 + ws.getD (k + 9) 0 + s1)) first

/-- One round. -/
def State.round (s : State) (constant word : UInt32) : State :=
  let s1 := rotr s.e 6 ^^^ rotr s.e 11 ^^^ rotr s.e 25
  let choice := (s.e &&& s.f) ^^^ ((~~~s.e) &&& s.g)
  let t1 := s.h + s1 + choice + constant + word
  let s0 := rotr s.a 2 ^^^ rotr s.a 13 ^^^ rotr s.a 22
  let majority := (s.a &&& s.b) ^^^ (s.a &&& s.c) ^^^ (s.b &&& s.c)
  ⟨t1 + (s0 + majority), s.a, s.b, s.c, s.d + t1, s.e, s.f, s.g⟩

/-- The sum of two states, word by word. -/
def State.add (s t : State) : State :=
  ⟨s.a + t.a, s.b + t.b, s.c + t.c, s.d + t.d, s.e + t.e, s.f + t.f, s.g + t.g, s.h + t.h⟩

/-- Mixes in the block at a position. -/
def State.block (bytes : ByteArray) (s : State) (start : Nat) : State :=
  s.add ((roundConstants.zip (schedule bytes start).toList).foldl
    (fun t (constant, word) => t.round constant word) s)

/-- The words of a state. -/
def State.words (s : State) : List UInt32 := [s.a, s.b, s.c, s.d, s.e, s.f, s.g, s.h]

/-- The bytes of a word, the highest first. -/
def wordBytes (w : UInt32) : List UInt8 :=
  [(w >>> 24).toUInt8, (w >>> 16).toUInt8, (w >>> 8).toUInt8, w.toUInt8]

/-- The digest of a message. -/
def digest (bytes : ByteArray) : List UInt8 :=
  let padded := pad bytes
  let final := (List.range (padded.size / 64)).foldl
    (fun s k => s.block padded (64 * k)) State.start
  final.words.flatMap wordBytes

end Sha256

/-- The SHA-256 digest of a message in hexadecimal digits. -/
def sha256Hex (bytes : ByteArray) : String := hex (Sha256.digest bytes)

end RuleCatalog.Digest
