import Mathlib.Tactic.IntervalCases
import Mathlib.Tactic.SplitIfs
import RuleCatalog.Json.Printer
import RuleCatalog.Json.Reader

/-! # Written strings

A string is read back from its written form, whatever characters it has.
-/

namespace RuleCatalog.Json

open Text (Glyph)

/-- The glyphs of characters. -/
abbrev shown (cs : List Char) : List Glyph := cs.map some

variable {soFar : List Glyph} {rest : List Glyph}

/-- A character is written with a letter of its own, as a number, or as it is. -/
private theorem escapeChar_cases (c : Char) :
    (∃ mark, escapeChar c = ['\\', mark] ∧ simpleEscape? (some mark) = some c) ∨
      (c.toNat < 0x20 ∧ escapeChar c = '\\' :: 'u' :: fourDigits c.toNat) ∨
      (0x20 ≤ c.toNat ∧ c ≠ '"' ∧ c ≠ '\\' ∧ escapeChar c = [c]) := by
  unfold escapeChar
  split_ifs with quote backslash backspace formFeed newline carriageReturn tab control
  · exact .inl ⟨'"', rfl, by rw [quote]; rfl⟩
  · exact .inl ⟨'\\', rfl, by rw [backslash]; rfl⟩
  · exact .inl ⟨'b', rfl, backspace ▸ rfl⟩
  · exact .inl ⟨'f', rfl, formFeed ▸ rfl⟩
  · exact .inl ⟨'n', rfl, newline ▸ rfl⟩
  · exact .inl ⟨'r', rfl, carriageReturn ▸ rfl⟩
  · exact .inl ⟨'t', rfl, tab ▸ rfl⟩
  · exact .inr (.inl ⟨control, rfl⟩)
  · exact .inr (.inr ⟨Nat.not_lt.mp control, quote, backslash, rfl⟩)

/-- A control character is read back from its four digits. -/
private theorem hexFour?_fourDigits : ∀ n < 0x20, ∃ a b c d, fourDigits n = [a, b, c, d] ∧
    hexFour? (some a) (some b) (some c) (some d) = some n := by
  intro n control
  interval_cases n <;> exact ⟨_, _, _, _, rfl, rfl⟩

/-- A character is read back from its written form. -/
theorem readString_escapeChar (c : Char) :
    readString (.ok soFar) (shown (escapeChar c) ++ rest) =
      readString (.ok (some c :: soFar)) rest := by
  rcases escapeChar_cases c with ⟨mark, written, read⟩ | ⟨control, written⟩ |
    ⟨visible, noQuote, noBackslash, written⟩
  · have marked : mark ≠ 'u' := by
      rintro rfl
      cases read
    simp [written, readString, read, marked, StringSoFar.push, Except.map]
  · obtain ⟨a, b, d, e, digits, value⟩ := hexFour?_fourDigits c.toNat control
    have noTrail : isTrailSurrogate c.toNat = false := by
      simp only [isTrailSurrogate, Bool.and_eq_false_iff, decide_eq_false_iff_not]
      omega
    have noLead : isLeadSurrogate c.toNat = false := by
      simp only [isLeadSurrogate, Bool.and_eq_false_iff, decide_eq_false_iff_not]
      omega
    simp [written, digits, readString, value, noTrail, noLead, StringSoFar.push, Except.map]
  · simp [written, readString, Nat.not_lt.mpr visible, StringSoFar.push, Except.map]

private theorem readString_escaped (cs : List Char) :
    readString (.ok soFar) (shown (cs.flatMap escapeChar) ++ rest) =
      readString (.ok (shown cs.reverse ++ soFar)) rest := by
  induction cs generalizing soFar with
  | nil => rfl
  | cons c cs ih =>
    rw [List.flatMap_cons, shown, List.map_append, List.append_assoc, readString_escapeChar, ih]
    simp

/-- Characters without gaps are a text. -/
theorem textOf?_shown (cs : List Char) : Text.textOf? (shown cs) = some (String.ofList cs) := by
  have whole : (shown cs).mapM id = some cs := by
    induction cs with
    | nil => rfl
    | cons c cs ih => simp [List.mapM_cons, ih]
  simp [Text.textOf?, whole]

/-- A string is read back after its opening mark. -/
theorem readString_written (s : String) :
    readString (.ok []) (shown (s.toList.flatMap escapeChar ++ ['"']) ++ rest) =
      (.ok s, .ok rest) := by
  have closed : readString (.ok (shown s.toList.reverse)) (some '"' :: rest) =
      (.ok s, .ok rest) := by
    have same : (shown s.toList.reverse).reverse = shown s.toList := by simp
    simp only [readString, StringSoFar.finish, bind, Except.bind, same, textOf?_shown,
      String.ofList_toList]
  rw [shown, List.map_append, List.append_assoc, readString_escaped, List.append_nil]
  exact closed

end RuleCatalog.Json
