import RuleCatalog.Archive.Bits

/-! # Prefix codes

Codes in which no code word begins another one, after RFC 1951. A code is given by the lengths of
its words: words of one length are consecutive numbers in the order of their symbols, and shorter
words come before longer ones. Reading a word goes through the lengths and keeps the first number
that is a word of that length, and the place of its symbol among all symbols.
-/

namespace RuleCatalog.Archive

/-- A code. -/
structure PrefixCode where
  /-- How many words there are of length one, two and so on. -/
  counts : List Nat
  /-- The symbols in the order of their words. -/
  symbols : Array Nat

namespace PrefixCode

/-- The length of the longest words. -/
def maxLength : Nat := 15

/-- The symbols with words of a length. -/
def symbolsOf (lengths : List Nat) (length : Nat) : List Nat :=
  (lengths.zipIdx.filter fun (l, _) => l == length).map Prod.snd

/-- All lengths that words may have. -/
def lengthRange : List Nat := (List.range maxLength).map (· + 1)

/-- How much of all sequences of `maxLength` bits begins with a word. -/
def covered (lengths : List Nat) : Nat :=
  (lengthRange.map fun l => lengths.count l * Nat.pow 2 (maxLength - l)).foldr (· + ·) 0

/-- How many symbols have a word. -/
def used (lengths : List Nat) : Nat := lengths.countP (· != 0)

/-- The code with words of the given lengths; length zero stands for no word. Every sequence of bits
must begin with exactly one word, unless the code may be `sparse` and has at most one word. -/
def ofLengths (sparse : Bool) (lengths : List Nat) : Except Failure PrefixCode :=
  if covered lengths = Nat.pow 2 maxLength ∨ (sparse ∧ used lengths ≤ 1) then
    .ok ⟨lengthRange.map lengths.count, (lengthRange.flatMap (symbolsOf lengths)).toArray⟩
  else .error .corrupt

/-- Reads a word, given how many words there are of each length still to come, the bits so far as a
number, the first number of the length, and how many words are shorter. -/
def readFrom (symbols : Array Nat) :
    List Nat → Nat → Nat → Nat → Bits → Except Failure (Nat × Bits)
  | [], _, _, _, _ => .error .corrupt
  | count :: counts, word, first, shorter, b => do
    let (bit, b) ← b.next
    let word := 2 * word + bit.toNat
    let first := 2 * first
    if word < first + count then
      match symbols[shorter + (word - first)]? with
      | some symbol => return (symbol, b)
      | none => throw .corrupt
    else readFrom symbols counts word (first + count) (shorter + count) b

/-- Reads a word and gives its symbol. -/
def read (code : PrefixCode) (b : Bits) : Except Failure (Nat × Bits) :=
  readFrom code.symbols code.counts 0 0 0 b

end PrefixCode

end RuleCatalog.Archive
