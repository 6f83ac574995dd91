import RuleCatalog.Proofs.Json.Strings
import RuleCatalog.Proofs.Number.Shortest

/-! # Written numbers

A written number is a numeral from its first to its last character, so what follows it does not
matter as long as it cannot be part of a numeral. Integers of 64 bits are read back as they are.
Floating point numbers are read back as whatever the two roundings of the reader make of them.
-/

namespace RuleCatalog.Json

open Text (Glyph)

/-! ## Digits -/

/-- A text whose beginning cannot continue a numeral. -/
def EndsNumeral (rest : List Glyph) : Prop :=
  ∀ g ∈ rest.head?, digitOf? g = none ∧ g ≠ some '.' ∧ g ≠ some 'e' ∧ g ≠ some 'E'

/-- Decimal digits, at least one. -/
structure Digits (ds : List Char) : Prop where
  digits : ∀ c ∈ ds, c.isDigit = true
  nonempty : ds ≠ []

/-- Digits that may stand before the point of a numeral. -/
structure WholeDigits (ds : List Char) : Prop extends Digits ds where
  /-- A zero comes first only if it is the only digit. -/
  unpadded : ds.head? = some '0' → ds = ['0']

/-- The values of decimal digits. -/
def digitValues (cs : List Char) : List Nat := cs.map fun c => c.toNat - '0'.toNat

variable {rest : List Glyph} {ds fs es : List Char}

theorem digitOf?_of_isDigit {c : Char} (digit : c.isDigit = true) :
    digitOf? (some c) = some (c.toNat - '0'.toNat) := by
  have range : '0' ≤ c ∧ c ≤ '9' := by
    simpa [Char.isDigit, Char.le_def] using digit
  simp [digitOf?, range]

theorem takeDigits_shown (digits : ∀ c ∈ ds, c.isDigit = true)
    (ends : ∀ g ∈ rest.head?, digitOf? g = none) :
    takeDigits (shown ds ++ rest) = (digitValues ds, rest) := by
  induction ds with
  | nil =>
    cases rest with
    | nil => rfl
    | cons g rest => simp [takeDigits, ends g rfl, digitValues]
  | cons c ds ih =>
    obtain ⟨here, later⟩ := List.forall_mem_cons.mp digits
    simp only [shown, List.map_cons, List.cons_append, takeDigits, digitOf?_of_isDigit here,
      ih later]
    rfl

theorem Digits.ofNat (n : Nat) : Digits (Nat.toDigits 10 n) where
  digits _ member := Nat.isDigit_of_mem_toDigits (by decide) (by decide) member
  nonempty := Nat.toDigits_ne_nil

theorem Digits.append {cs : List Char} (digits : Digits ds) (more : ∀ c ∈ cs, c.isDigit = true) :
    Digits (ds ++ cs) where
  digits := List.forall_mem_append.mpr ⟨digits.digits, more⟩
  nonempty := List.append_ne_nil_of_left_ne_nil digits.nonempty cs

/-- The digits of a positive number do not begin with a zero. -/
theorem head?_toDigits {n : Nat} (positive : 0 < n) : (Nat.toDigits 10 n).head? ≠ some '0' := by
  induction n using Nat.strongRecOn with
  | ind n ih =>
    rw [Nat.toDigits_eq_if (by decide)]
    split
    case isTrue small =>
      intro zero
      interval_cases n <;> cases zero
    case isFalse large =>
      have before := ih (n / 10) (by omega) (by omega)
      rwa [List.head?_append, Option.or_of_isSome]
      exact List.isSome_head?.mpr Nat.toDigits_ne_nil

theorem WholeDigits.of_head? (digits : Digits ds) (head : ds.head? ≠ some '0') : WholeDigits ds :=
  { digits with unpadded := fun zero => (head zero).elim }

theorem WholeDigits.ofNat (n : Nat) : WholeDigits (Nat.toDigits 10 n) := by
  rcases Nat.eq_zero_or_pos n with rfl | positive
  · exact { Digits.ofNat 0 with unpadded := fun _ => rfl }
  · exact .of_head? (.ofNat n) (head?_toDigits positive)

/-- There is one digit only, or the first one is not zero. -/
theorem WholeDigits.values (whole : WholeDigits ds) :
    (∃ d, digitValues ds = [d]) ∨ ∃ d more, digitValues ds = (d + 1) :: more := by
  cases ds with
  | nil => exact (whole.nonempty rfl).elim
  | cons c cs =>
    by_cases zero : c = '0'
    · rw [whole.unpadded (by rw [zero]; rfl)]
      exact .inl ⟨_, rfl⟩
    · have digit := whole.digits c (List.mem_cons_self ..)
      have least : '0'.toNat < c.toNat := by
        simp only [Char.isDigit, Bool.and_eq_true, decide_eq_true_eq] at digit
        exact lt_of_le_of_ne digit.1 fun same => zero (Char.toNat_inj.mp same.symm)
      obtain ⟨d, value⟩ := Nat.exists_eq_add_of_lt least
      exact .inr ⟨d, _, by rw [digitValues, List.map_cons, value]; congr 1; omega⟩

/-! ## Numerals -/

namespace NumeralReading

theorem afterDigits_of_end (n : Numeral) (ends : EndsNumeral rest) :
    afterDigits n rest = whole n rest := by
  cases rest with
  | nil => rfl
  | cons g rest =>
    obtain ⟨-, -, small, large⟩ := ends g rfl
    unfold afterDigits
    split
    · next same => exact (small (List.cons.inj same).1).elim
    · next same => exact (large (List.cons.inj same).1).elim
    · rfl

/-- The digits of an exponent, which do not look like a sign. -/
theorem exponent_digits (n : Numeral) (digits : Digits es) (ends : EndsNumeral rest) :
    exponent n (shown es ++ rest) =
      whole { n with exponent := some (false, digitValues es) } rest := by
  have taken := takeDigits_shown digits.digits fun g member => (ends g member).1
  cases es with
  | nil => exact (digits.nonempty rfl).elim
  | cons c es =>
    have digit := digits.digits c (List.mem_cons_self ..)
    have noPlus : c ≠ '+' := by rintro rfl; cases digit
    have noMinus : c ≠ '-' := by rintro rfl; cases digit
    simp only [shown, List.map_cons, List.cons_append, digitValues] at taken ⊢
    simp [exponent, noPlus, noMinus, taken]

theorem exponent_negative (n : Numeral) (digits : Digits es) (ends : EndsNumeral rest) :
    exponent n (some '-' :: (shown es ++ rest)) =
      whole { n with exponent := some (true, digitValues es) } rest := by
  have taken := takeDigits_shown digits.digits fun g member => (ends g member).1
  cases es with
  | nil => exact (digits.nonempty rfl).elim
  | cons c es =>
    simp only [shown, List.map_cons, List.cons_append, digitValues] at taken ⊢
    simp only [exponent, taken]

/-- The exponent of a written number. -/
theorem exponent_integer (e : Int) : ∃ sign, ∀ n rest, EndsNumeral rest →
    exponent n (shown (toString e).toList ++ rest) =
      whole { n with exponent := some sign } rest := by
  rw [Int.toString_eq_repr, Int.repr_eq_if]
  split
  case isTrue =>
    refine ⟨(false, digitValues (Nat.toDigits 10 e.toNat)), fun n rest ends => ?_⟩
    rw [Nat.toList_repr]
    exact exponent_digits n (.ofNat _) ends
  case isFalse =>
    refine ⟨(true, digitValues (Nat.toDigits 10 (-e).toNat)), fun n rest ends => ?_⟩
    rw [String.toList_append, Nat.toList_repr]
    exact exponent_negative n (.ofNat _) ends

/-- A numeral without a fraction, up to its exponent. -/
theorem unsigned_whole (negative : Bool) (digits : WholeDigits ds)
    (ends : ∀ g ∈ rest.head?, digitOf? g = none ∧ g ≠ some '.') :
    unsigned negative (shown ds ++ rest) =
      afterDigits ⟨negative, digitValues ds, none, none⟩ rest := by
  have taken := takeDigits_shown digits.digits fun g member => (ends g member).1
  have noPoint : ∀ after, rest ≠ some '.' :: after := by
    rintro after rfl
    exact (ends _ rfl).2 rfl
  rcases digits.values with ⟨_ | d, same⟩ | ⟨d, more, same⟩ <;> rw [same] at taken ⊢ <;>
    simp only [unsigned, taken]

/-- A numeral with a fraction, up to its exponent. -/
theorem unsigned_fraction (negative : Bool) (digits : WholeDigits ds) (places : Digits fs)
    (ends : ∀ g ∈ rest.head?, digitOf? g = none) :
    unsigned negative (shown (ds ++ '.' :: fs) ++ rest) =
      afterDigits ⟨negative, digitValues ds, some (digitValues fs), none⟩ rest := by
  have split : shown (ds ++ '.' :: fs) ++ rest = shown ds ++ some '.' :: (shown fs ++ rest) := by
    simp
  have taken : takeDigits (shown ds ++ some '.' :: (shown fs ++ rest)) =
      (digitValues ds, some '.' :: (shown fs ++ rest)) :=
    takeDigits_shown digits.digits fun g member => by cases member; rfl
  have takenPlaces := takeDigits_shown places.digits ends
  have nonemptyPlaces : digitValues fs ≠ [] := by simpa [digitValues] using places.nonempty
  rw [split]
  rcases digits.values with ⟨_ | d, same⟩ | ⟨d, more, same⟩ <;> rw [same] at taken ⊢ <;>
    simp only [unsigned, taken, takenPlaces]

/-- A text of digits that is read as a numeral, whatever follows it that ends a numeral. -/
structure Reads (cs : List Char) (n : Numeral) : Prop where
  unsigned : ∀ negative rest, EndsNumeral rest →
    NumeralReading.unsigned negative (shown cs ++ rest) = whole { n with negative := negative } rest
  /-- The text begins with a digit. -/
  digit : ∃ c more, cs = c :: more ∧ c.isDigit = true

end NumeralReading

/-! ## Written numbers -/

theorem starts_digit (digits : Digits ds) (cs : List Char) :
    ∃ c more, ds ++ cs = c :: more ∧ c.isDigit = true := by
  cases ds with
  | nil => exact (digits.nonempty rfl).elim
  | cons c ds => exact ⟨c, ds ++ cs, rfl, digits.digits c (List.mem_cons_self ..)⟩

/-- Integers are written as digits. -/
theorem reads_natural (n : Nat) :
    NumeralReading.Reads (Nat.toDigits 10 n)
      ⟨false, digitValues (Nat.toDigits 10 n), none, none⟩ where
  unsigned negative rest ends := by
    rw [NumeralReading.unsigned_whole negative (.ofNat n) fun g member =>
      ⟨(ends g member).1, (ends g member).2.1⟩]
    exact NumeralReading.afterDigits_of_end _ ends
  digit := by simpa using starts_digit (.ofNat n) []

/-- Digits with a fraction. -/
theorem reads_fraction (digits : WholeDigits ds) (places : Digits fs) :
    NumeralReading.Reads (ds ++ '.' :: fs)
      ⟨false, digitValues ds, some (digitValues fs), none⟩ where
  unsigned negative rest ends := by
    rw [NumeralReading.unsigned_fraction negative digits places fun g member => (ends g member).1]
    exact NumeralReading.afterDigits_of_end _ ends
  digit := starts_digit digits.toDigits _

theorem zeros_digits (n : Nat) : ∀ c ∈ Decimal.zeros n, c.isDigit = true := by
  intro c member
  rw [List.eq_of_mem_replicate member]
  rfl

theorem reads_withPoint {d : Decimal} (proper : d.Proper) :
    ∃ n : Numeral, n.fraction.isSome ∧ NumeralReading.Reads (Decimal.withPoint d.positional) n := by
  have digits : Digits d.chars := .ofNat d.digits
  by_cases whole : 0 ≤ d.exponent
  · have padded : Digits (d.chars ++ Decimal.zeros d.exponent.toNat) :=
      digits.append (zeros_digits _)
    have noPoint : (d.chars ++ Decimal.zeros d.exponent.toNat).contains '.' = false := by
      apply Bool.eq_false_iff.mpr
      intro point
      cases padded.digits '.' (List.contains_iff_mem.mp point)
    have unpadded : WholeDigits (d.chars ++ Decimal.zeros d.exponent.toNat) := by
      rcases proper with positive | zero
      · apply WholeDigits.of_head? padded
        rw [List.head?_append, Option.or_of_isSome (List.isSome_head?.mpr digits.nonempty)]
        exact head?_toDigits positive
      · have none : Decimal.zeros d.exponent.toNat = [] := by rw [zero]; rfl
        rw [none, List.append_nil]
        exact .ofNat d.digits
    have written : Decimal.withPoint d.positional =
        (d.chars ++ Decimal.zeros d.exponent.toNat) ++ '.' :: ['0'] := by
      simp only [Decimal.positional, whole, if_true, Decimal.withPoint, noPoint,
        Bool.false_eq_true, if_false]
    rw [written]
    exact ⟨_, rfl, reads_fraction unpadded (.ofNat 0)⟩
  · have positive : 0 < d.digits := proper.resolve_right (by omega)
    by_cases inside : (-d.exponent).toNat < d.chars.length
    · have written : Decimal.withPoint d.positional =
          d.chars.take (d.chars.length - (-d.exponent).toNat) ++
            '.' :: d.chars.drop (d.chars.length - (-d.exponent).toNat) := by
        simp [Decimal.positional, whole, inside, Decimal.withPoint]
      have first : Digits (d.chars.take (d.chars.length - (-d.exponent).toNat)) :=
        ⟨fun c member => digits.digits c (List.mem_of_mem_take member),
          List.ne_nil_of_length_pos (by rw [List.length_take]; omega)⟩
      have last : Digits (d.chars.drop (d.chars.length - (-d.exponent).toNat)) :=
        ⟨fun c member => digits.digits c (List.mem_of_mem_drop member),
          List.ne_nil_of_length_pos (by rw [List.length_drop]; omega)⟩
      have unpadded : WholeDigits (d.chars.take (d.chars.length - (-d.exponent).toNat)) := by
        apply WholeDigits.of_head? first
        rw [List.head?_take, if_neg (by omega)]
        exact head?_toDigits positive
      rw [written]
      exact ⟨_, rfl, reads_fraction unpadded last⟩
    · have written : Decimal.withPoint d.positional =
          ['0'] ++ '.' :: (Decimal.zeros ((-d.exponent).toNat - d.chars.length) ++ d.chars) := by
        simp [Decimal.positional, whole, inside, Decimal.withPoint]
      have places : Digits (Decimal.zeros ((-d.exponent).toNat - d.chars.length) ++ d.chars) :=
        ⟨List.forall_mem_append.mpr ⟨zeros_digits _, digits.digits⟩,
          List.append_ne_nil_of_right_ne_nil _ digits.nonempty⟩
      rw [written]
      exact ⟨_, rfl, reads_fraction (.ofNat 0) places⟩

theorem reads_scientific (d : Decimal) :
    ∃ n : Numeral, n.exponent.isSome ∧ NumeralReading.Reads d.scientific n := by
  have digits : Digits d.chars := .ofNat d.digits
  simp only [Decimal.scientific]
  generalize d.exponent + _ = e
  obtain ⟨sign, read⟩ := NumeralReading.exponent_integer e
  match d.chars, digits with
  | [], digits => exact (digits.nonempty rfl).elim
  | [c], digits =>
    have alone : WholeDigits [c] := { digits with unpadded := by simp }
    refine ⟨⟨false, digitValues [c], none, some sign⟩, rfl, ⟨fun negative rest ends => ?_,
      starts_digit digits _⟩⟩
    have split : shown ([c] ++ 'e' :: (toString e).toList) ++ rest =
        shown [c] ++ some 'e' :: (shown (toString e).toList ++ rest) := by simp
    rw [split, NumeralReading.unsigned_whole negative alone (by simp [digitOf?]),
      NumeralReading.afterDigits, read _ _ ends]
  | c :: f :: fs, digits =>
    obtain ⟨first, places⟩ := List.forall_mem_cons.mp digits.digits
    have alone : WholeDigits [c] := ⟨⟨by simpa using first, by simp⟩, by simp⟩
    refine ⟨⟨false, digitValues [c], some (digitValues (f :: fs)), some sign⟩, rfl,
      ⟨fun negative rest ends => ?_, ⟨c, _, rfl, first⟩⟩⟩
    have split : shown ((c :: '.' :: f :: fs) ++ 'e' :: (toString e).toList) ++ rest =
        shown ([c] ++ '.' :: (f :: fs)) ++ some 'e' :: (shown (toString e).toList ++ rest) := by
      simp
    rw [split, NumeralReading.unsigned_fraction negative alone ⟨places, by simp⟩
      (by simp [digitOf?]), NumeralReading.afterDigits, read _ _ ends]

/-! ## Reading back -/

/-- The first character of a numeral. -/
def StartsNumeral (c : Char) : Prop := c = '-' ∨ c.isDigit = true

/-- A text that is read as a numeral, whatever follows it that ends a numeral. -/
structure IsNumeral (cs : List Char) (m : Numeral) : Prop where
  read : ∀ rest, EndsNumeral rest → readNumeral (shown cs ++ rest) = .whole m rest
  starts : ∃ c more, cs = c :: more ∧ StartsNumeral c

namespace NumeralReading.Reads

variable {cs : List Char} {n : Numeral}

theorem isNumeral (reads : Reads cs n) : IsNumeral cs { n with negative := false } := by
  obtain ⟨c, more, rfl, digit⟩ := reads.digit
  have noMinus : c ≠ '-' := by rintro rfl; cases digit
  refine ⟨fun rest ends => ?_, c, more, rfl, .inr digit⟩
  rw [← reads.unsigned false rest ends]
  simp [readNumeral, noMinus]

theorem isNumeral_negative (reads : Reads cs n) :
    IsNumeral ('-' :: cs) { n with negative := true } :=
  ⟨reads.unsigned true, '-', cs, rfl, .inl rfl⟩

end NumeralReading.Reads

/-- Integers are written as a sign and digits. -/
theorem numeral_integer (n : Int) : IsNumeral (writeNumber (.integer n))
    ⟨n < 0, digitValues (Nat.toDigits 10 n.natAbs), none, none⟩ := by
  rw [writeNumber, Int.toString_eq_repr, Int.repr_eq_if]
  split
  case isTrue natural =>
    have size : n.natAbs = n.toNat := by omega
    rw [Nat.toList_repr, decide_eq_false (by omega), size]
    exact (reads_natural _).isNumeral
  case isFalse negative =>
    have size : n.natAbs = (-n).toNat := by omega
    rw [String.toList_append, Nat.toList_repr, decide_eq_true (by omega), size]
    exact (reads_natural _).isNumeral_negative

/-- Finite floating point numbers are written with a fraction or an exponent. -/
theorem numeral_float {x : Binary64} (finite : x.isFinite = true) :
    ∃ m : Numeral, (m.fraction.isSome ∨ m.exponent.isSome) ∧
      IsNumeral (writeNumber (.float x)) m := by
  have number : x.isNaN = false := by
    simp only [Binary64.isFinite, Binary64.isNaN, decide_eq_true_eq, decide_eq_false_iff_not]
      at finite ⊢
    omega
  have digits : writeNumber (.float x) = x.documentDigits.toList := by
    simp [writeNumber, Binary64.documentText, Binary64.special?, finite, number]
  obtain ⟨body, n, shape, reads, written⟩ : ∃ body, ∃ n : Numeral,
      (n.fraction.isSome ∨ n.exponent.isSome) ∧ NumeralReading.Reads body n ∧
        x.documentDigits = x.signed body := by
    unfold Binary64.documentDigits
    dsimp only
    split
    · obtain ⟨n, fraction, reads⟩ := reads_withPoint (x.shortest_proper .even)
      exact ⟨_, n, .inl fraction, reads, rfl⟩
    · obtain ⟨n, exponent, reads⟩ := reads_scientific (x.shortest .even)
      exact ⟨_, n, .inr exponent, reads, rfl⟩
  rw [digits, written, Binary64.signed, String.toList_ofList]
  split
  · exact ⟨{ n with negative := true }, shape, reads.isNumeral_negative⟩
  · exact ⟨{ n with negative := false }, shape, reads.isNumeral⟩

/-- What the text of a number is read back as. -/
def Number.reread (n : Number) : Except Fault Number := (readNumeral (shown (writeNumber n))).read

/-- A number that is written as a numeral. -/
def Number.isFinite : Number → Bool
  | .integer _ => true
  | .float x => x.isFinite

/-- Every finite number is written as a numeral. -/
theorem exists_numeral {n : Number} (finite : n.isFinite = true) :
    ∃ m, IsNumeral (writeNumber n) m := by
  cases n with
  | integer n => exact ⟨_, numeral_integer n⟩
  | float x =>
    obtain ⟨m, -, numeral⟩ := numeral_float (x := x) finite
    exact ⟨m, numeral⟩

theorem IsNumeral.reread {n : Number} {m : Numeral} (numeral : IsNumeral (writeNumber n) m) :
    n.reread = (NumeralReading.whole m []).read := by
  have alone := numeral.read [] fun _ none => nomatch none
  rw [List.append_nil] at alone
  rw [Number.reread, alone]

/-- A number is read back from a text that goes on behind it as from its own text. -/
theorem readNumeral_written {n : Number} (finite : n.isFinite = true) (ends : EndsNumeral rest) :
    readNumeral (shown (writeNumber n) ++ rest) = ⟨n.reread, .ok rest⟩ := by
  obtain ⟨m, numeral⟩ := exists_numeral finite
  rw [numeral.read rest ends, numeral.reread]
  rfl

theorem appendDigits_values {start : Nat} (fits : Nat.ofDigitChars 10 ds start < Nat.pow 2 64) :
    Numeral.appendDigits start (digitValues ds) = (Nat.ofDigitChars 10 ds start, []) := by
  induction ds generalizing start with
  | nil => simp [digitValues, Numeral.appendDigits]
  | cons c ds ih =>
    rw [Nat.ofDigitChars_cons, Nat.mul_comm] at fits
    have grows : start * 10 + (c.toNat - '0'.toNat) ≤
        Nat.ofDigitChars 10 ds (start * 10 + (c.toNat - '0'.toNat)) := by
      rw [Nat.ofDigitChars_eq_ofDigitChars_zero]
      have := Nat.le_mul_of_pos_left (start * 10 + (c.toNat - '0'.toNat))
        (Nat.pow_pos (n := ds.length) (by decide : 0 < 10))
      omega
    have here : start * 10 + (c.toNat - '0'.toNat) < Nat.pow 2 64 := lt_of_le_of_lt grows fits
    rw [Nat.ofDigitChars_cons, Nat.mul_comm]
    rw [digitValues, List.map_cons, Numeral.appendDigits, if_pos here]
    exact ih fits

/-- Integers of 64 bits, with or without a sign, are read back as they are. -/
theorem reread_integer {n : Int} (low : -(2 ^ 63) ≤ n) (high : n < 2 ^ 64) :
    (Number.integer n).reread = .ok (.integer n) := by
  have fits : Nat.ofDigitChars 10 (Nat.toDigits 10 n.natAbs) 0 < Nat.pow 2 64 := by
    rw [Nat.ofDigitChars_toDigits (by decide) (by decide)]
    change n.natAbs < 2 ^ 64
    omega
  have value := appendDigits_values fits
  rw [Nat.ofDigitChars_toDigits (by decide) (by decide)] at value
  have read : Numeral.value? ⟨n < 0, digitValues (Nat.toDigits 10 n.natAbs), none, none⟩ =
      some (.integer n) := by
    simp only [Numeral.value?, value, ne_eq, not_true_eq_false, if_false]
    by_cases negative : n < 0
    · have small : ¬(n.natAbs = 0 ∨ Nat.pow 2 63 < n.natAbs) := by
        change ¬(n.natAbs = 0 ∨ 2 ^ 63 < n.natAbs)
        omega
      have same : -(n.natAbs : Int) = n := by omega
      simp only [negative, decide_true, Bool.not_true, Bool.false_eq_true, if_false, small, same]
    · have same : (n.natAbs : Int) = n := by omega
      simp [negative, same]
  rw [(numeral_integer n).reread, NumeralReading.whole, read]

end RuleCatalog.Json
