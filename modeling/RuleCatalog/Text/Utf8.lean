/-! # Bytes as characters

Reading UTF-8. `glyphs` never fails: a byte that belongs to no character becomes a gap, so that a
reader which only needs the characters around it can go on. `lossy` shows such bytes by the
replacement character, one for every longest start of a character that was cut short.
-/

namespace RuleCatalog.Text

/-- A character, or the gap left by a byte that belongs to no character. -/
abbrev Glyph := Option Char

/-- The characters and gaps of `bytes` from position `i`. -/
def glyphsFrom (bytes : ByteArray) (i : Nat) : List Glyph :=
  if _inside : i < bytes.size then
    match bytes.utf8DecodeChar? i with
    | some c => some c :: glyphsFrom bytes (i + c.utf8Size)
    | none => none :: glyphsFrom bytes (i + 1)
  else []
termination_by bytes.size - i
decreasing_by
  · have := c.utf8Size_pos; omega
  · omega

/-- The characters and gaps of a sequence of bytes. -/
def glyphs (bytes : ByteArray) : List Glyph := glyphsFrom bytes 0

/-- The glyphs of a text, which has no gaps. -/
def glyphsOf (s : String) : List Glyph := s.toList.map some

/-- The text of a list of glyphs, unless it has a gap. -/
def textOf? (gs : List Glyph) : Option String := (gs.mapM id).map String.ofList

private def isContinuation (low high : UInt8) : Option UInt8 → Bool
  | some b => low ≤ b && b ≤ high
  | none => false

/-- How many bytes, at least one, stand at `i` where no whole character stands: the longest part
that could have begun one. -/
def brokenLength (bytes : ByteArray) (i : Nat) : Nat :=
  let second (low high : UInt8) := isContinuation low high bytes[i + 1]?
  let third := isContinuation 0x80 0xBF bytes[i + 2]?
  match bytes[i]? with
  | none => 1
  | some first =>
    let low : UInt8 := if first == 0xE0 then 0xA0 else if first == 0xF0 then 0x90 else 0x80
    let high : UInt8 := if first == 0xED then 0x9F else if first == 0xF4 then 0x8F else 0xBF
    if 0xE0 ≤ first && first ≤ 0xEF then
      if second low high then 2 else 1
    else if 0xF0 ≤ first && first ≤ 0xF4 then
      if second low high then (if third then 3 else 2) else 1
    else 1

private theorem brokenLength_pos (bytes : ByteArray) (i : Nat) : 0 < brokenLength bytes i := by
  unfold brokenLength
  split <;> simp only <;> repeat' split
  all_goals decide

/-- The characters of `bytes` from position `i`, with a replacement character for each broken one. -/
def lossyFrom (bytes : ByteArray) (i : Nat) : List Char :=
  if _inside : i < bytes.size then
    match bytes.utf8DecodeChar? i with
    | some c => c :: lossyFrom bytes (i + c.utf8Size)
    | none => '\ufffd' :: lossyFrom bytes (i + brokenLength bytes i)
  else []
termination_by bytes.size - i
decreasing_by
  · have := c.utf8Size_pos; omega
  · have := brokenLength_pos bytes i; omega

/-- A text for any sequence of bytes, broken characters replaced. -/
def lossy (bytes : ByteArray) : String := String.ofList (lossyFrom bytes 0)

end RuleCatalog.Text
