import ContactMigration.Calendar.Date
import ContactMigration.Text.Blank

/-!
Reading dates and times from text.

A date is read as: blanks, a year, blanks, `-`, blanks, a month, blanks, `-`, blanks, a day,
blanks, and nothing else. A date and time continues after the day with blanks, `T`, blanks, an
hour, blanks, `:`, blanks, a minute, blanks, `:`, blanks, a second, optionally a point and 1 to
9 digits of fraction (further digits ignored), blanks, and nothing else. A year without sign has
1 to 4 digits, with a sign any number; the other fields have 1 or 2 digits. Each field is
checked as soon as it is read (month 1 to 12, day 1 to 31, hour 0 to 23, minute 0 to 59,
second 0 to 60), the whole date only at the end.

The first problem met decides the message: text too short for the next item, a character that
does not fit it, a field out of range, or text left over.
-/

namespace ContactMigration.Calendar

/-- Why a text is not a date or a date and time. -/
inductive ParseError where
  | outOfRange
  | invalid
  | tooShort
  | tooLong
  deriving DecidableEq, Repr, Inhabited

/-- The message of a parse error. -/
def ParseError.message : ParseError → String
  | .outOfRange => "input is out of range"
  | .invalid => "input contains invalid characters"
  | .tooShort => "premature end of input"
  | .tooLong => "trailing input"

/-- The largest value a field may reach while it is read. -/
def fieldMax : Nat := 9223372036854775807

/-- The value of an ASCII digit. -/
def digitValue (c : Char) : Option Nat :=
  if '0' ≤ c && c ≤ '9' then some (c.toNat - '0'.toNat) else none

/-- Reads at most `allowance` more digits onto `value`; `taken` digits are read already. -/
def takeDigits (value taken : Nat) : Nat → List Char → Except ParseError (Nat × Nat × List Char)
  | 0, rest => .ok (value, taken, rest)
  | _ + 1, [] => if taken == 0 then .error .tooShort else .ok (value, taken, [])
  | allowance + 1, c :: rest =>
    match digitValue c with
    | some d =>
      let next := value * 10 + d
      if next > fieldMax then .error .outOfRange else takeDigits next (taken + 1) allowance rest
    | none => if taken == 0 then .error .invalid else .ok (value, taken, c :: rest)

/-- Reads 1 to `most` digits. -/
def number (most : Nat) (s : List Char) : Except ParseError (Nat × List Char) := do
  let (value, _, rest) ← takeDigits 0 0 most s
  return (value, rest)

/-- Reads a numeric field after blanks and checks that it lies from `low` to `high`. -/
def field (most low high : Nat) (s : List Char) : Except ParseError (Nat × List Char) := do
  let (value, rest) ← number most (Text.trimStart s)
  if low ≤ value && value ≤ high then return (value, rest) else throw .outOfRange

/-- Reads the exact character `c`. -/
def literal (c : Char) : List Char → Except ParseError (List Char)
  | [] => .error .tooShort
  | d :: rest => if d == c then .ok rest else .error .invalid

/-- Reads a year after blanks: a sign and any number of digits, or 1 to 4 digits. It must fit
32 bits. -/
def year (s : List Char) : Except ParseError (Int × List Char) := do
  let (value, rest) ←
    match Text.trimStart s with
    | '-' :: rest => do
      let (v, r) ← number rest.length rest
      pure (-(v : Int), r)
    | '+' :: rest => do
      let (v, r) ← number rest.length rest
      pure ((v : Int), r)
    | t => do
      let (v, r) ← number 4 t
      pure ((v : Int), r)
  if -2147483648 ≤ value && value < 2147483648 then return (value, rest) else throw .outOfRange

/-- Reads year, month and day with their separators. -/
def yearMonthDay (s : List Char) : Except ParseError ((Int × Nat × Nat) × List Char) := do
  let (y, s) ← year s
  let s ← literal '-' (Text.trimStart s)
  let (m, s) ← field 2 1 12 s
  let s ← literal '-' (Text.trimStart s)
  let (d, s) ← field 2 1 31 s
  return ((y, m, d), s)

/-- The nanoseconds of a fraction: 1 to 9 digits scaled to nine places, further digits skipped. -/
def fraction (s : List Char) : Except ParseError (Nat × List Char) := do
  let (value, taken, rest) ← takeDigits 0 0 9 s
  return (value * Nat.pow 10 (9 - taken), rest.dropWhile Char.isDigit)

/-- Fails with `trailing input` unless only blanks are left. -/
def finish (s : List Char) : Except ParseError Unit :=
  if (Text.trimStart s).isEmpty then .ok () else .error .tooLong

/-- Reads a date. -/
def Date.parse (text : String) : Except ParseError Date := do
  let ((y, m, d), s) ← yearMonthDay text.toList
  finish s
  match Date.ofYmd? y m d with
  | some date => return date
  | none => throw .outOfRange

/-- Reads a date and time. -/
def DateTime.parse (text : String) : Except ParseError DateTime := do
  let ((y, mo, d), s) ← yearMonthDay text.toList
  let s ← literal 'T' (Text.trimStart s)
  let (h, s) ← field 2 0 23 s
  let s ← literal ':' (Text.trimStart s)
  let (mi, s) ← field 2 0 59 s
  let s ← literal ':' (Text.trimStart s)
  let (sec, s) ← field 2 0 60 s
  let (nano, s) ←
    match s with
    | '.' :: rest => fraction rest
    | _ => pure (0, s)
  finish s
  match Date.ofYmd? y mo d with
  | some date => return ⟨date, h, mi, sec, nano⟩
  | none => throw .outOfRange

end ContactMigration.Calendar
