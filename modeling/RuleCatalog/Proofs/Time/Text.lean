import Mathlib.Algebra.Group.Nat.Defs
import RuleCatalog.Proofs.Time.Calendar

/-! # Written timestamps

A written timestamp is read part by part, and the parts are those of the timestamp that was
written, unless it is a leap second within a minute: its text is that of the second after it. Such a
timestamp is read from no text.
-/

namespace RuleCatalog.Timestamp

/-! ## Padded numbers -/

section Padded

variable {width n : Nat} {rest : List Char}

theorem isDigit_iff {c : Char} : isDigit c = true ↔ c.isDigit = true := by
  simp [isDigit, Char.isDigit, Char.le_def]

theorem isDigit_padded : ∀ c ∈ padded width n, isDigit c = true := by
  intro c member
  rcases List.mem_append.mp member with zero | digit
  · rw [List.eq_of_mem_replicate zero]
    rfl
  · exact isDigit_iff.mpr (Nat.isDigit_of_mem_toDigits (by decide) (by decide) digit)

theorem length_padded (positive : 0 < width) (fits : n < Nat.pow 10 width) :
    (padded width n).length = width := by
  have enough : (Nat.toDigits 10 n).length ≤ width :=
    (Nat.length_toDigits_le_iff (by decide) positive).mpr fits
  simp only [padded, List.length_append, List.length_replicate]
  omega

theorem digitsValue_eq (ds : List Char) : digitsValue ds = Nat.ofDigitChars 10 ds 0 := by
  rw [Nat.ofDigitChars_eq_foldl, digitsValue]
  simp only [Nat.mul_comm]

theorem digitsValue_padded : digitsValue (padded width n) = n := by
  rw [digitsValue_eq, padded, Nat.ofDigitChars_append, Nat.ofDigitChars_replicate_zero,
    Nat.mul_zero, Nat.ofDigitChars_ten_toDigits]

/-- A padded number begins with a digit. -/
theorem exists_padded (width n : Nat) :
    ∃ c cs, padded width n = c :: cs ∧ isDigit c = true := by
  cases parts : padded width n with
  | nil => exact absurd parts (List.append_ne_nil_of_right_ne_nil _ Nat.toDigits_ne_nil)
  | cons c cs =>
    have first : c ∈ padded width n := parts ▸ List.mem_cons_self
    exact ⟨c, cs, rfl, isDigit_padded c first⟩

theorem not_isBlank_of_isDigit {c : Char} (digit : isDigit c = true) : Text.isBlank c = false := by
  simp only [isDigit, Bool.and_eq_true, decide_eq_true_eq, Char.le_def,
    UInt32.le_iff_toNat_le] at digit
  have low : 48 ≤ c.toNat := digit.1
  have high : c.toNat ≤ 57 := digit.2
  simp [Text.isBlank]
  omega

theorem trimStart_padded : Text.trimStart (padded width n ++ rest) = padded width n ++ rest := by
  obtain ⟨c, cs, parts, digit⟩ := exists_padded width n
  rw [parts, List.cons_append, Text.trimStart, List.dropWhile_cons_of_neg]
  simp [not_isBlank_of_isDigit digit]

/-- The digits at the start of a text that begins with a padded number. -/
theorem number_of_digits {limit : Option Nat} (small : n < Nat.pow 2 63)
    (digits : (limit.elim (padded width n ++ rest)
      (padded width n ++ rest).take).takeWhile isDigit = padded width n) : number limit (padded width n ++ rest) = .ok (n, rest) := by
  obtain ⟨d, ds, parts, first⟩ := exists_padded width n
  unfold number
  split
  · next nothing => simp [parts] at nothing
  · next c cs start =>
    have digit : isDigit c = true := by
      rw [parts, List.cons_append] at start
      rwa [← (List.cons.inj start).1]
    simp only [digit, Bool.not_true, Bool.false_eq_true, if_false]
    cases limit <;>
      simp only [Option.elim] at digits <;>
      simp only [digits, digitsValue_padded, small, if_true, List.drop_left]

theorem takeWhile_padded (ends : ∀ c ∈ rest.head?, isDigit c = false) :
    (padded width n ++ rest).takeWhile isDigit = padded width n := by
  rw [List.takeWhile_append_of_pos isDigit_padded]
  cases rest with
  | nil => simp
  | cons d rest => simp [ends d rfl]

/-- A number of as many digits as are asked for. -/
theorem number_padded (positive : 0 < width) (fits : n < Nat.pow 10 width)
    (small : n < Nat.pow 2 63) : number (some width) (padded width n ++ rest) = .ok (n, rest) := by
  apply number_of_digits small
  simp only [Option.elim, List.take_left' (length_padded positive fits)]
  have whole : (padded width n ++ []).takeWhile isDigit = padded width n := takeWhile_padded nofun
  rwa [List.append_nil] at whole

/-- A number of any length, up to what is no digit. -/
theorem number_padded_any (ends : ∀ c ∈ rest.head?, isDigit c = false) (small : n < Nat.pow 2 63) :
    number none (padded width n ++ rest) = .ok (n, rest) :=
  number_of_digits small (takeWhile_padded ends)

end Padded

/-! ## Parts of a timestamp -/

section Parts

variable {n : Nat} {rest : List Char}

/-- A mark that is not blank. -/
theorem mark_cons {c : Char} (shown : Text.isBlank c = false) : mark c (c :: rest) = .ok rest := by
  simp [mark, Text.trimStart, shown]

theorem bounded_padded {low high : Nat} (least : low ≤ n) (most : n ≤ high) (two : high < 100) :
    bounded low high (padded 2 n ++ rest) = .ok (n, rest) := by
  have fits : n < Nat.pow 10 2 := by
    change n < 100
    omega
  have small : n < Nat.pow 2 63 := by
    change n < 2 ^ 63
    omega
  simp only [bounded, trimStart_padded, number_padded (by decide) fits small, bind, Except.bind,
    least, most, and_self, if_true]
  rfl

/-- A year that is written with four digits. -/
theorem year_four {n : Nat} (four : n ≤ 9999) :
    year (padded 4 n ++ '-' :: rest) = .ok ((n : Int), '-' :: rest) := by
  have fits : n < Nat.pow 10 4 := Nat.lt_succ_of_le four
  have inRange : -(Int.pow 2 31) ≤ (n : Int) ∧ (n : Int) < Int.pow 2 31 := by
    change -(2 ^ 31) ≤ (n : Int) ∧ (n : Int) < 2 ^ 31
    omega
  have read : number (some 4) (padded 4 n ++ '-' :: rest) = .ok (n, '-' :: rest) :=
    number_padded (by decide) fits (Nat.lt_trans fits (by decide))
  obtain ⟨c, cs, parts, digit⟩ := exists_padded 4 n
  simp only [year, trimStart_padded]
  rw [parts, List.cons_append] at read ⊢
  split
  · next minus => cases (List.cons.inj minus).1 ▸ digit
  · next plus => cases (List.cons.inj plus).1 ▸ digit
  · simp only [read, Except.map, bind, Except.bind, inRange, and_self, if_true]
    rfl

/-- A year that is written with a sign. -/
theorem year_signed (negative : Bool) {n : Nat} (fits : n < 2 ^ 31) :
    year ((if negative then '-' else '+') :: (padded 4 n ++ '-' :: rest)) =
      .ok (if negative then -(n : Int) else n, '-' :: rest) := by
  have small : n < Nat.pow 2 63 := Nat.lt_trans fits (by decide)
  have inRange : -(Int.pow 2 31) ≤ (n : Int) ∧ (n : Int) < Int.pow 2 31 ∧
      -(Int.pow 2 31) ≤ -(n : Int) ∧ -(n : Int) < Int.pow 2 31 := by
    change -(2 ^ 31) ≤ (n : Int) ∧ (n : Int) < 2 ^ 31 ∧ -(2 ^ 31) ≤ -(n : Int) ∧ -(n : Int) < 2 ^ 31
    omega
  have ends : ∀ c ∈ ('-' :: rest).head?, isDigit c = false := by
    rintro c ⟨⟩
    rfl
  have read : number none (padded 4 n ++ '-' :: rest) = .ok (n, '-' :: rest) :=
    number_padded_any ends small
  have shown (sign : Char) (solid : Text.isBlank sign = false) :
      Text.trimStart (sign :: (padded 4 n ++ '-' :: rest)) =
        sign :: (padded 4 n ++ '-' :: rest) := by
    simp [Text.trimStart, solid]
  cases negative with
  | true =>
    simp only [year, if_true, shown '-' rfl, read, Except.map, bind, Except.bind, inRange, and_self]
    rfl
  | false =>
    simp only [year, Bool.false_eq_true, if_false, shown '+' rfl, read, Except.map, bind,
      Except.bind, inRange, and_self, if_true]
    rfl

/-- A year is read from the text that is written for it. -/
theorem year_text {y : Int} (first : firstYear ≤ y) (last : y ≤ lastYear) :
    year (yearText y ++ '-' :: rest) = .ok (y, '-' :: rest) := by
  simp only [firstYear, lastYear] at first last
  rw [yearText]
  split
  · next four =>
    rw [year_four (by omega), Int.toNat_of_nonneg four.1]
  · have value : (if y < 0 then -(y.natAbs : Int) else y.natAbs) = y := by
      split <;> omega
    have fits : y.natAbs < 2 ^ 31 := by omega
    simpa only [decide_eq_true_eq, value, List.cons_append] using year_signed (y < 0) fits

/-- The digits behind the point, of which there are nine at most. -/
theorem fraction_digits {width : Nat} (positive : 0 < width) (most : width ≤ 9)
    (fits : n < Nat.pow 10 width) :
    fraction ('.' :: (padded width n ++ ['Z'])) = .ok (n * Nat.pow 10 (9 - width), ['Z']) := by
  have small : n < Nat.pow 2 63 := by
    have := Nat.pow_le_pow_right (n := 10) (by decide) most
    change n < 10 ^ width at fits
    change n < 2 ^ 63
    omega
  have length := length_padded positive fits
  have read : number (some 9) (padded width n ++ ['Z']) = .ok (n, ['Z']) := by
    apply number_of_digits small
    have short : (padded width n ++ ['Z']).take 9 = padded width n ++ ['Z'].take (9 - width) := by
      rw [List.take_append, length, List.take_of_length_le (by omega)]
    simp only [Option.elim, short]
    apply takeWhile_padded
    cases 9 - width with
    | zero => exact nofun
    | succ k =>
      rintro c ⟨⟩
      rfl
  have digits : (padded width n ++ ['Z']).length - ['Z'].length = width := by
    simp [length]
  simp only [fraction, read, bind, Except.bind, digits]
  rfl

theorem fraction_text {nanos : Nat} (below : nanos < Nat.pow 10 9) :
    fraction (fractionText nanos ++ ['Z']) = .ok (nanos, ['Z']) := by
  change nanos < 1000000000 at below
  have groups : ∀ width, 0 < width → width ≤ 9 → nanos % Nat.pow 10 (9 - width) = 0 →
      fraction ('.' :: (padded width (nanos / Nat.pow 10 (9 - width)) ++ ['Z'])) =
        .ok (nanos, ['Z']) := by
    intro width positive most whole
    have fits : nanos / Nat.pow 10 (9 - width) < Nat.pow 10 width := by
      apply Nat.div_lt_of_lt_mul
      change nanos < 10 ^ (9 - width) * 10 ^ width
      rwa [← Nat.pow_add, Nat.sub_add_cancel most]
    rw [fraction_digits positive most fits, Nat.div_mul_cancel (Nat.dvd_of_mod_eq_zero whole)]
  unfold fractionText
  split
  · next none =>
    subst none
    rfl
  · split
    · next three => exact groups 3 (by decide) (by decide) three
    · split
      · next six => exact groups 6 (by decide) (by decide) six
      · have nine := groups 9 (by decide) (by decide) (Nat.mod_one nanos)
        simpa using nine

theorem offset_text : offset (Text.trimStart ['Z']) = .ok (0, []) := rfl

end Parts

/-! ## Timestamps -/

theorem make?_self (t : Timestamp) : make? t.seconds t.nanos = some t := by
  simp only [make?, t.representable, t.within, and_self, dif_pos]

/-- The second that the text of a timestamp tells: a leap second is counted on unless it ends its
minute. -/
def toldSecond (t : Timestamp) : Int :=
  if Nat.pow 10 9 ≤ t.nanos ∧ t.seconds % 60 ≠ 59 then t.seconds + 1 else t.seconds

def toldNanos (t : Timestamp) : Nat :=
  if Nat.pow 10 9 ≤ t.nanos ∧ t.seconds % 60 ≠ 59 then t.nanos - Nat.pow 10 9 else t.nanos

/-- A second within a minute is not the last one. -/
theorem toldSecond_representable (t : Timestamp) :
    firstSecond ≤ t.toldSecond ∧ t.toldSecond < endSecond := by
  have representable := t.representable
  have wholeMinutes : endSecond % 60 = 0 := by decide
  rw [toldSecond]
  split <;> omega

theorem toldNanos_within (t : Timestamp) : t.toldNanos < 2 * Nat.pow 10 9 := by
  have within := t.within
  rw [toldNanos]
  split <;> omega

/-- The timestamp that the text of a timestamp tells. -/
def told (t : Timestamp) : Timestamp :=
  ⟨t.toldSecond, t.toldNanos, t.toldSecond_representable, t.toldNanos_within⟩

theorem told_eq_self_iff {t : Timestamp} :
    t.told = t ↔ t.nanos < Nat.pow 10 9 ∨ t.seconds % 60 = 59 := by
  obtain ⟨seconds, nanos, representable, within⟩ := t
  simp only [told, toldSecond, toldNanos, mk.injEq]
  split <;> omega

/-- The number of the day can be represented. -/
theorem day_bounds (t : Timestamp) : dayNumber firstYear 1 1 ≤ t.seconds / 86400 ∧
    t.seconds / 86400 < dayNumber (lastYear + 1) 1 1 := by
  obtain ⟨first, last⟩ := t.representable
  simp only [firstSecond, endSecond] at first last
  omega

/-- The second within its minute as it is written, and the nanoseconds within that second. -/
theorem second_bounds (t : Timestamp) :
    let leap := Nat.pow 10 9 ≤ t.nanos
    let second := (t.seconds % 86400).toNat % 60 + (if leap then 1 else 0)
    let nanos := if leap then t.nanos - Nat.pow 10 9 else t.nanos
    second ≤ 60 ∧ nanos < Nat.pow 10 9 ∧
      t.toldSecond = t.seconds - t.seconds % 60 + (min second 59 : Nat) ∧
      (if second = 60 then nanos + Nat.pow 10 9 else nanos) = t.toldNanos := by
  have within := t.within
  have billion : Nat.pow 10 9 = 1000000000 := rfl
  simp only [toldSecond, toldNanos, billion] at within ⊢
  by_cases leap : 1000000000 ≤ t.nanos
  · by_cases last : t.seconds % 60 = 59
    · have lastInDay : (t.seconds % 86400).toNat % 60 = 59 := by omega
      simp only [leap, last, lastInDay, ne_eq, not_true_eq_false, and_false, if_true, if_false]
      omega
    · have notLast : (t.seconds % 86400).toNat % 60 + 1 ≠ 60 := by omega
      simp only [leap, last, notLast, ne_eq, not_false_eq_true, and_self, and_true, if_true,
        if_false]
      omega
  · have notLast : (t.seconds % 86400).toNat % 60 + 0 ≠ 60 := by omega
    simp only [leap, notLast, false_and, and_true, if_false]
    omega

/-- The characters of the text, part by part. -/
theorem toList_text {t : Timestamp} {y : Int} {month day : Nat}
    (date : dateOfDay (t.seconds / 86400) = (y, month, day)) :
    t.text.toList = yearText y ++ '-' :: (padded 2 month ++ '-' :: (padded 2 day ++
      'T' :: (padded 2 ((t.seconds % 86400).toNat / 3600) ++
      ':' :: (padded 2 ((t.seconds % 86400).toNat / 60 % 60) ++
      ':' :: (padded 2 ((t.seconds % 86400).toNat % 60 +
        (if Nat.pow 10 9 ≤ t.nanos then 1 else 0)) ++
      (fractionText (if Nat.pow 10 9 ≤ t.nanos then t.nanos - Nat.pow 10 9 else t.nanos) ++
        ['Z'])))))) := by
  simp [text, date]

/-- From a text is read what it tells. -/
theorem parse_text (t : Timestamp) : parse t.text = .ok t.told := by
  obtain ⟨⟨y, month, day⟩, date⟩ : ∃ date, dateOfDay (t.seconds / 86400) = date := ⟨_, rfl⟩
  obtain ⟨monthPos, monthLe, dayPos, dayLe⟩ := isDate_dateOfDay date
  have number := dayNumber_dateOfDay date
  obtain ⟨firstDay, lastDay⟩ := t.day_bounds
  obtain ⟨firstYear, lastYear⟩ := year_dateOfDay date firstDay lastDay
  obtain ⟨secondLe, nanosLt, sameSecond, sameNanos⟩ := t.second_bounds
  have days : day ≤ 31 := by
    apply Nat.le_trans dayLe
    unfold daysInMonth
    split
    · split <;> decide
    · split <;> decide
  have written := toList_text date
  generalize (if Nat.pow 10 9 ≤ t.nanos then t.nanos - Nat.pow 10 9 else t.nanos) = nanos at *
  generalize (t.seconds % 86400).toNat % 60 + (if Nat.pow 10 9 ≤ t.nanos then 1 else 0) = second
    at *
  have dash : ∀ rest, mark '-' ('-' :: rest) = .ok rest := fun _ => mark_cons rfl
  have colon : ∀ rest, mark ':' (':' :: rest) = .ok rest := fun _ => mark_cons rfl
  have theMonth : ∀ rest, bounded 1 12 (padded 2 month ++ rest) = .ok (month, rest) :=
    fun _ => bounded_padded monthPos monthLe (by decide)
  have theDay : ∀ rest, bounded 1 31 (padded 2 day ++ rest) = .ok (day, rest) :=
    fun _ => bounded_padded dayPos days (by decide)
  have separated : ∀ rest, separator ('T' :: rest) = .ok rest := fun _ => rfl
  have theHour : ∀ rest, bounded 0 23 (padded 2 ((t.seconds % 86400).toNat / 3600) ++ rest) =
      .ok ((t.seconds % 86400).toNat / 3600, rest) :=
    fun _ => bounded_padded (Nat.zero_le _) (by omega) (by decide)
  have theMinute : ∀ rest, bounded 0 59 (padded 2 ((t.seconds % 86400).toNat / 60 % 60) ++ rest) =
      .ok ((t.seconds % 86400).toNat / 60 % 60, rest) :=
    fun _ => bounded_padded (Nat.zero_le _) (by omega) (by decide)
  have theSecond : ∀ rest, bounded 0 60 (padded 2 second ++ rest) = .ok (second, rest) :=
    fun _ => bounded_padded (Nat.zero_le _) secondLe (by decide)
  have inDay : dayNumber y month day * 86400 +
      ((((t.seconds % 86400).toNat / 3600 : Nat) : Int) * 3600 +
        (((t.seconds % 86400).toNat / 60 % 60 : Nat) : Int) * 60 + ((min second 59 : Nat) : Int)) -
      0 = t.told.seconds := by
    change _ = t.toldSecond
    rw [number, sameSecond]
    omega
  have told : make? t.told.seconds t.toldNanos = some t.told := t.told.make?_self
  have noRest : (!(Text.trimStart []).isEmpty) = false := rfl
  have possible :
      ¬(y < Timestamp.firstYear ∨ Timestamp.lastYear < y ∨ daysInMonth y month < day) := by
    omega
  have noShift : ¬86400 ≤ Int.natAbs 0 := by decide
  simp only [parse, written, year_text firstYear lastYear, dash, theMonth, theDay, separated,
    theHour, colon, theMinute, theSecond, fraction_text nanosLt, offset_text, bind, Except.bind,
    noRest, Bool.false_eq_true, possible, noShift, if_false, inDay, sameNanos, told]
  rfl

end RuleCatalog.Timestamp
