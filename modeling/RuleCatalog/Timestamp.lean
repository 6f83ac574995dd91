import RuleCatalog.Text.Blank

/-! # Timestamps

Points of time as bundles carry them: written as date, time and offset from universal time, kept in
universal time to the nanosecond. A leap second is a second with a billion nanoseconds more, which a
text can only give to the last second of a minute. Reading is lenient about blanks and separators;
writing gives the date, the time with a fraction of no, three, six or nine digits, and the letter
for universal time.
-/

namespace RuleCatalog

namespace Timestamp

/-! ## Calendar -/

def isLeapYear (year : Int) : Bool := year % 4 == 0 && (year % 100 != 0 || year % 400 == 0)

def daysInMonth (year : Int) (month : Nat) : Nat :=
  if month = 2 then (if isLeapYear year then 29 else 28)
  else if month = 4 ∨ month = 6 ∨ month = 9 ∨ month = 11 then 30
  else 31

/-- The number of a day, counted from the start of 1970. Years are taken to start in March, so that
the leap day comes last. -/
def dayNumber (year : Int) (month day : Nat) : Int :=
  let y := if month ≤ 2 then year - 1 else year
  let era := y / 400
  let yearOfEra := y % 400
  let monthFromMarch : Int := if month ≤ 2 then (month : Int) + 9 else (month : Int) - 3
  let dayOfYear := (153 * monthFromMarch + 2) / 5 + (day : Int) - 1
  let dayOfEra := yearOfEra * 365 + yearOfEra / 4 - yearOfEra / 100 + dayOfYear
  era * 146097 + dayOfEra - 719468

/-- Year, month and day of the day with the given number. -/
def dateOfDay (number : Int) : Int × Nat × Nat :=
  let n := number + 719468
  let era := n / 146097
  let dayOfEra := n % 146097
  let yearOfEra := (dayOfEra - dayOfEra / 1460 + dayOfEra / 36524 - dayOfEra / 146096) / 365
  let dayOfYear := dayOfEra - (365 * yearOfEra + yearOfEra / 4 - yearOfEra / 100)
  let monthFromMarch := (5 * dayOfYear + 2) / 153
  let day := (dayOfYear - (153 * monthFromMarch + 2) / 5 + 1).toNat
  let month := (if monthFromMarch < 10 then monthFromMarch + 3 else monthFromMarch - 9).toNat
  let year := yearOfEra + era * 400 + (if month ≤ 2 then 1 else 0)
  (year, month, day)

/-- The years that can be represented. -/
def firstYear : Int := -262143
def lastYear : Int := 262142

/-- The first second that can be represented, and the one after the last. -/
def firstSecond : Int := dayNumber firstYear 1 1 * 86400
def endSecond : Int := dayNumber (lastYear + 1) 1 1 * 86400

end Timestamp

/-- A point of time: the second since the start of 1970, and nanoseconds within it. -/
structure Timestamp where
  seconds : Int
  nanos : Nat
  representable : Timestamp.firstSecond ≤ seconds ∧ seconds < Timestamp.endSecond
  /-- Any second can be a leap second. -/
  within : nanos < 2 * Nat.pow 10 9
  deriving DecidableEq, Repr

namespace Timestamp

/-- The point of time with given seconds and nanoseconds, if there is one. -/
def make? (seconds : Int) (nanos : Nat) : Option Timestamp :=
  if representable : firstSecond ≤ seconds ∧ seconds < endSecond then
    if within : nanos < 2 * Nat.pow 10 9 then some ⟨seconds, nanos, representable, within⟩
    else none
  else none

/-! ## Reading -/

/-- Why a text is no timestamp. -/
inductive Error where
  | outOfRange
  | impossible
  | invalid
  | tooShort
  | tooLong
  deriving DecidableEq, Repr

def Error.message : Error → String
  | .outOfRange => "input is out of range"
  | .impossible => "no possible date and time matching input"
  | .invalid => "input contains invalid characters"
  | .tooShort => "premature end of input"
  | .tooLong => "trailing input"

def isDigit (c : Char) : Bool := '0' ≤ c && c ≤ '9'

def digitsValue (ds : List Char) : Nat :=
  ds.foldl (fun n c => n * 10 + (c.toNat - '0'.toNat)) 0

/-- At most `width` digits, any number of them without a width, and at least one. A number beyond 63
bits is out of range. -/
def number (width : Option Nat) (text : List Char) : Except Error (Nat × List Char) :=
  match text with
  | [] => .error .tooShort
  | c :: _ =>
    if !isDigit c then .error .invalid
    else
      let ds := match width with
        | some n => (text.take n).takeWhile isDigit
        | none => text.takeWhile isDigit
      let value := digitsValue ds
      if value < Nat.pow 2 63 then .ok (value, text.drop ds.length) else .error .outOfRange

/-- A mark that has to stand here, blanks before it aside. -/
def mark (c : Char) (text : List Char) : Except Error (List Char) :=
  match Text.trimStart text with
  | [] => .error .tooShort
  | d :: rest => if d = c then .ok rest else .error .invalid

/-- A number of two digits at most between the bounds, blanks before it aside. -/
def bounded (low high : Nat) (text : List Char) : Except Error (Nat × List Char) := do
  let (n, rest) ← number (some 2) (Text.trimStart text)
  if low ≤ n ∧ n ≤ high then return (n, rest) else throw .outOfRange

/-- A year: four digits at most, or a sign and any number of them. -/
def year (text : List Char) : Except Error (Int × List Char) := do
  let (y, rest) ← match Text.trimStart text with
    | '-' :: rest => (number none rest).map fun (n, rest) => (-(n : Int), rest)
    | '+' :: rest => (number none rest).map fun (n, rest) => ((n : Int), rest)
    | text => (number (some 4) text).map fun (n, rest) => ((n : Int), rest)
  if -(Int.pow 2 31) ≤ y ∧ y < Int.pow 2 31 then return (y, rest) else throw .outOfRange

/-- A fraction of a second in nanoseconds; digits after the ninth do not count. -/
def fraction (text : List Char) : Except Error (Nat × List Char) :=
  match text with
  | '.' :: rest => do
    let (n, after) ← number (some 9) rest
    return (n * Nat.pow 10 (9 - (rest.length - after.length)), after.dropWhile isDigit)
  | text => .ok (0, text)

/-- How many bytes a text takes, up to two. -/
def isShorterThanTwoBytes (text : List Char) : Bool := ((text.take 2).map Char.utf8Size).foldr (· + ·) 0 < 2

/-- Two digits, with a test on the first of them. -/
def twoDigits (text : List Char) : Except Error (Nat × List Char) :=
  match text with
  | a :: b :: rest =>
    if isDigit a && isDigit b then .ok (digitsValue [a, b], rest) else .error .invalid
  | text => .error (if isShorterThanTwoBytes text then .tooShort else .invalid)

private def asciiLower (c : Char) : Char :=
  if 'A' ≤ c ∧ c ≤ 'Z' then Char.ofNat (c.toNat + 32) else c

/-- The sign of an offset: a plus sign, a hyphen or the minus sign. -/
def offsetSign : List Char → Except Error (Bool × List Char)
  | [] => .error .tooShort
  | c :: rest =>
    if c = '+' then .ok (false, rest)
    else if c = '-' ∨ c = '\u2212' then .ok (true, rest)
    else .error .invalid

/-- The offset from universal time in seconds: one of its names, or a sign, hours and minutes. -/
def offset (text : List Char) : Except Error (Int × List Char) := do
  if (text.take 3).map asciiLower == ['u', 't', 'c'] then return (0, text.drop 3)
  match text with
  | 'Z' :: rest => return (0, rest)
  | 'z' :: rest => return (0, rest)
  | text =>
    let (negative, text) ← offsetSign text
    let (hours, text) ← twoDigits text
    let text := text.dropWhile fun c => c == ':' || Text.isBlank c
    let (minutes, text) ← twoDigits text
    if 60 ≤ minutes then throw .outOfRange
    let seconds : Int := hours * 3600 + minutes * 60
    return (if negative then -seconds else seconds, text)

/-- The mark between date and time. -/
def separator : List Char → Except Error (List Char)
  | [] => .error .tooShort
  | c :: rest => if c = 't' ∨ c = 'T' ∨ c = ' ' then .ok rest else .error .invalid

/-- Reads a timestamp. -/
def parse (s : String) : Except Error Timestamp := do
  let (y, text) ← year s.toList
  let text ← mark '-' text
  let (month, text) ← bounded 1 12 text
  let text ← mark '-' text
  let (day, text) ← bounded 1 31 text
  let text ← separator text
  let (hour, text) ← bounded 0 23 text
  let text ← mark ':' text
  let (minute, text) ← bounded 0 59 text
  let text ← mark ':' text
  let (second, text) ← bounded 0 60 text
  let (nanos, text) ← fraction text
  let (shift, text) ← offset (Text.trimStart text)
  if !(Text.trimStart text).isEmpty then throw .tooLong
  if y < firstYear ∨ lastYear < y ∨ daysInMonth y month < day then throw .outOfRange
  if 86400 ≤ shift.natAbs then throw .outOfRange
  let inDay : Int := (hour : Int) * 3600 + minute * 60 + (min second 59 : Nat)
  let seconds := dayNumber y month day * 86400 + inDay - shift
  match make? seconds (if second = 60 then nanos + Nat.pow 10 9 else nanos) with
  | some t => return t
  | none => throw .impossible

/-! ## Writing -/

/-- A number with at least `width` digits. -/
def padded (width n : Nat) : List Char :=
  let ds := Nat.toDigits 10 n
  List.replicate (width - ds.length) '0' ++ ds

/-- A year: four digits, or a sign and at least four outside the range of four. -/
def yearText (y : Int) : List Char :=
  if 0 ≤ y ∧ y ≤ 9999 then padded 4 y.toNat
  else (if y < 0 then '-' else '+') :: padded 4 y.natAbs

/-- The fraction of a second, with as many groups of three digits as it needs. -/
def fractionText (nanos : Nat) : List Char :=
  if nanos = 0 then []
  else if nanos % Nat.pow 10 6 = 0 then '.' :: padded 3 (nanos / Nat.pow 10 6)
  else if nanos % Nat.pow 10 3 = 0 then '.' :: padded 6 (nanos / Nat.pow 10 3)
  else '.' :: padded 9 nanos

/-- The written form. -/
def text (t : Timestamp) : String :=
  let (y, month, day) := dateOfDay (t.seconds / 86400)
  let inDay := (t.seconds % 86400).toNat
  let leap := Nat.pow 10 9 ≤ t.nanos
  let second := inDay % 60 + (if leap then 1 else 0)
  String.ofList (yearText y ++ '-' :: padded 2 month ++ '-' :: padded 2 day ++ 'T' ::
    padded 2 (inDay / 3600) ++ ':' :: padded 2 (inDay / 60 % 60) ++ ':' :: padded 2 second ++
    fractionText (if leap then t.nanos - Nat.pow 10 9 else t.nanos) ++ ['Z'])

end Timestamp

end RuleCatalog
