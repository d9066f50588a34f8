import ContactMigration.Proofs.Reading
import ContactMigration.Calendar.Parse

/-!
# Dates and times read back from their text

A date of the calendar (`Date.Valid`: its year, month and day make it) is read back from its
text, and so is a date and time whose time of day is one (`DateTime.Valid`): the hour below 24,
the minute below 60, the second at most 60 for a leap second, and the nanoseconds below a
second. The text writes every field with its width of digits; a year outside 0 to 9999 takes a
sign and as many digits as it needs, which the reader takes up to the separator that follows.
The fraction of a second is written with 3, 6 or 9 digits and read back scaled to nanoseconds.

Main statements: `Date.parse_text` and `DateTime.parse_text`.
-/

namespace ContactMigration.Calendar

open Text

/-! ## Fields of digits -/

theorem digitValue_eq (c : Char) :
    digitValue c = if c.isDigit then some (c.toNat - 48) else none := by
  simp only [digitValue, Char.isDigit]
  rfl

/-- Digits are read while the allowance lasts and the text shows digits; at least one must be
read. -/
theorem takeDigits_digits {ds rest : List Char} (digits : ∀ c ∈ ds, c.isDigit = true) :
    ∀ {value taken allowance : Nat}, ds.length ≤ allowance →
      (ds.length < allowance → ∀ c ∈ rest.head?, c.isDigit = false) →
      0 < taken + ds.length → digitsValue value ds ≤ fieldMax →
      takeDigits value taken allowance (ds ++ rest) =
        .ok (digitsValue value ds, taken + ds.length, rest) := by
  induction ds with
  | nil =>
    intro value taken allowance _ stops some _
    simp only [List.length_nil, Nat.add_zero] at some
    cases allowance with
    | zero => rfl
    | succ allowance =>
      -- the allowance is left over, so the text must stop showing digits here
      have stops := stops (by simp)
      cases rest with
      | nil => simp [takeDigits, digitsValue]; omega
      | cons c rest =>
        have notDigit : digitValue c = none := by simp [digitValue_eq, stops c rfl]
        simp [takeDigits, notDigit, digitsValue]
        omega
  | cons c ds ih =>
    intro value taken allowance fits stops _ bounded
    obtain ⟨allowance, rfl⟩ : ∃ a, allowance = a + 1 := ⟨allowance - 1, by simp at fits; omega⟩
    have digit := digits c (by simp)
    have next : value * 10 + (c.toNat - 48) ≤ fieldMax :=
      (le_digitsValue _ ds).trans bounded
    simp only [List.cons_append, takeDigits, digitValue_eq, digit, if_true]
    rw [if_neg (by omega)]
    rw [ih (fun d mem => digits d (by simp [mem])) (by simp at fits; omega)
      (fun shorter => stops (by simp; omega)) (by omega) bounded]
    simp [digitsValue]
    omega

theorem number_digits {most : Nat} {ds : List Char} (rest : List Char)
    (digits : ∀ c ∈ ds, c.isDigit = true) (nonempty : 0 < ds.length) (fits : ds.length ≤ most)
    (stops : ds.length < most → ∀ c ∈ rest.head?, c.isDigit = false)
    (bounded : digitsValue 0 ds ≤ fieldMax) :
    number most (ds ++ rest) = .ok (digitsValue 0 ds, rest) := by
  have read : takeDigits 0 0 most (ds ++ rest) = .ok (digitsValue 0 ds, 0 + ds.length, rest) :=
    takeDigits_digits digits fits stops (by omega) bounded
  simp [number, read, bind, Except.bind, pure, Except.pure]

theorem padded_toList (w n : Nat) :
    (padded w n).toList =
      List.replicate (w - (Nat.toDigits 10 n).length) '0' ++ Nat.toDigits 10 n := by
  simp [padded, String.length, Nat.toString_eq_repr]

theorem padded_digits (w n : Nat) : ∀ c ∈ (padded w n).toList, c.isDigit = true := by
  intro c mem
  rw [padded_toList, List.mem_append, List.mem_replicate] at mem
  rcases mem with ⟨-, rfl⟩ | mem
  · rfl
  · exact Nat.isDigit_of_mem_toDigits (by omega) (by omega) mem

theorem padded_ne_nil (w n : Nat) :
    ∃ c cs, (padded w n).toList = c :: cs ∧ c.isDigit = true := by
  cases eq : (padded w n).toList with
  | nil => simp [padded_toList] at eq
  | cons c cs => exact ⟨c, cs, rfl, padded_digits w n c (by simp [eq])⟩

theorem length_padded_pos (w n : Nat) : 0 < (padded w n).toList.length := by
  obtain ⟨c, cs, first, -⟩ := padded_ne_nil w n
  simp [first]

theorem length_padded {w n : Nat} (positive : 0 < w) (small : n < 10 ^ w) :
    (padded w n).toList.length = w := by
  have fits : (Nat.toDigits 10 n).length ≤ w :=
    (Nat.length_toDigits_le_iff (by omega) positive).mpr small
  simp [padded_toList]
  omega

theorem digitsValue_padded (w n : Nat) : digitsValue 0 (padded w n).toList = n := by
  rw [padded_toList, digitsValue_zeros, digitsValue_toDigits]

theorem trimStart_padded (w n : Nat) (rest : List Char) :
    trimStart ((padded w n).toList ++ rest) = (padded w n).toList ++ rest := by
  obtain ⟨c, cs, first, digit⟩ := padded_ne_nil w n
  simp [first, trimStart, isBlank_of_isDigit digit]

/-- A field written with exactly its width of digits reads back. -/
theorem field_padded {w low high n : Nat} (rest : List Char) (positive : 0 < w)
    (small : n < 10 ^ w) (inRange : low ≤ n ∧ n ≤ high) (bounded : n ≤ fieldMax) :
    field w low high ((padded w n).toList ++ rest) = .ok (n, rest) := by
  have read := number_digits rest (padded_digits w n)
    (by rw [length_padded positive small]; exact positive) (length_padded positive small).le
    (fun shorter => absurd shorter (by rw [length_padded positive small]; omega))
    (by rw [digitsValue_padded]; exact bounded)
  rw [digitsValue_padded] at read
  simp [field, trimStart_padded, read, bind, Except.bind, inRange, pure, Except.pure]

/-- A two-digit field reads back. -/
theorem field_two {low high n : Nat} (rest : List Char) (inRange : low ≤ n ∧ n ≤ high)
    (below : high < 100) : field 2 low high ((padded 2 n).toList ++ rest) = .ok (n, rest) :=
  field_padded rest (by omega) (by omega) inRange (by unfold fieldMax; omega)

theorem literal_trimStart (c : Char) (blank : isBlank c = false) (rest : List Char) :
    literal c (trimStart (c :: rest)) = .ok rest := by
  simp [trimStart, blank, literal]

/-! ## Years -/

/-- The range check of a year read back: a year of the calendar fits 32 bits. -/
theorem year_check {y : Int} (inRange : minYear ≤ y ∧ y ≤ maxYear) (rest : List Char) :
    (if (-2147483648 ≤ y && y < 2147483648) = true then
      (pure (y, rest) : Except ParseError (Int × List Char)) else throw .outOfRange) =
      .ok (y, rest) := by
  unfold minYear maxYear at inRange
  rw [if_pos (by simp; omega)]
  rfl

/-- A year with a minus sign is the negated number of all the digits that follow, checked for
range. -/
theorem year_of_minus {s t rest : List Char} {v : Nat} (sign : trimStart s = '-' :: t)
    (read : number t.length t = .ok (v, rest)) :
    year s = if (-2147483648 ≤ -(v : Int) && -(v : Int) < 2147483648) = true then
      pure (-(v : Int), rest) else throw .outOfRange := by
  unfold year
  rw [sign]
  split
  · rename_i same
    obtain ⟨-, rfl⟩ := List.cons.inj same
    rw [read, ok_bind]
    dsimp only
    rw [pure_bind]
  · rename_i same
    cases (List.cons.inj same).1
  · rename_i notMinus _
    exact absurd rfl (notMinus _)

/-- A year with a plus sign is the number of all the digits that follow, checked for range. -/
theorem year_of_plus {s t rest : List Char} {v : Nat} (sign : trimStart s = '+' :: t)
    (read : number t.length t = .ok (v, rest)) :
    year s = if (-2147483648 ≤ (v : Int) && (v : Int) < 2147483648) = true then
      pure ((v : Int), rest) else throw .outOfRange := by
  unfold year
  rw [sign]
  split
  · rename_i same
    cases (List.cons.inj same).1
  · rename_i same
    obtain ⟨-, rfl⟩ := List.cons.inj same
    rw [read, ok_bind]
    dsimp only
    rw [pure_bind]
  · rename_i _ notPlus
    exact absurd rfl (notPlus _)

/-- A year without a sign is the number of at most four digits, checked for range. -/
theorem year_of_digit {s t rest : List Char} {c : Char} {v : Nat} (first : trimStart s = c :: t)
    (digit : c.isDigit = true) (read : number 4 (c :: t) = .ok (v, rest)) :
    year s = if (-2147483648 ≤ (v : Int) && (v : Int) < 2147483648) = true then
      pure ((v : Int), rest) else throw .outOfRange := by
  unfold year
  rw [first]
  -- a digit is no sign, so only the last branch matches
  split
  · rename_i same
    cases (List.cons.inj same).1
    cases digit
  · rename_i same
    cases (List.cons.inj same).1
    cases digit
  · rw [read, ok_bind]
    dsimp only
    rw [pure_bind]

/-- A year reads back from its text, whether written with four digits or with a sign, up to
a character that is no digit. -/
theorem year_yearText {y : Int} (inRange : minYear ≤ y ∧ y ≤ maxYear) (rest : List Char)
    (stops : ∀ c ∈ rest.head?, c.isDigit = false) :
    year ((yearText y).toList ++ rest) = .ok (y, rest) := by
  have bounded : y.natAbs ≤ fieldMax := by
    unfold minYear maxYear at inRange; unfold fieldMax; omega
  unfold yearText
  by_cases plain : 0 ≤ y ∧ y ≤ 9999
  · -- four digits and no sign
    have small : y.toNat < 10 ^ 4 := by omega
    have read := number_digits rest (padded_digits 4 y.toNat)
      (length_padded_pos 4 y.toNat) (length_padded (by omega) small).le
      (fun shorter => absurd shorter (by rw [length_padded (by omega) small]; omega))
      (by rw [digitsValue_padded]; omega)
    rw [digitsValue_padded] at read
    obtain ⟨c, cs, first, digit⟩ := padded_ne_nil 4 y.toNat
    rw [first, List.cons_append] at read
    have unsigned : trimStart ((padded 4 y.toNat).toList ++ rest) = c :: (cs ++ rest) := by
      rw [trimStart_padded, first, List.cons_append]
    rw [if_pos (by simpa using plain), year_of_digit unsigned digit read,
      Int.toNat_of_nonneg plain.1, year_check inRange]
  · -- a sign, then at least four digits of the year's size, read up to the separator
    have read : number ((padded 4 y.natAbs).toList ++ rest).length
        ((padded 4 y.natAbs).toList ++ rest) = .ok (y.natAbs, rest) := by
      rw [number_digits rest (padded_digits 4 y.natAbs) (length_padded_pos 4 y.natAbs)
        (by simp) (fun _ => stops) (by rw [digitsValue_padded]; exact bounded),
        digitsValue_padded]
    rw [if_neg (by simpa using plain)]
    by_cases negative : y < 0
    · rw [if_pos negative, year_of_minus (by simp [trimStart, isBlank]) read,
        show -(y.natAbs : Int) = y by omega, year_check inRange]
    · rw [if_neg negative, year_of_plus (by simp [trimStart, isBlank]) read,
        show (y.natAbs : Int) = y by omega, year_check inRange]

/-! ## Dates -/

/-- A date of the calendar: its year, month and day make it. -/
def Date.Valid (d : Date) : Prop :=
  Date.ofYmd? d.year d.month d.day = some d

instance (d : Date) : Decidable d.Valid :=
  inferInstanceAs (Decidable (_ = _))

theorem Date.Valid.bounds {d : Date} (valid : d.Valid) :
    (minYear ≤ d.year ∧ d.year ≤ maxYear) ∧ (1 ≤ d.month ∧ d.month ≤ 12) ∧
      (1 ≤ d.day ∧ d.day ≤ 31) := by
  unfold Date.Valid Date.ofYmd? at valid
  split at valid
  · rename_i inRange
    have monthDays : daysInMonth d.year d.month ≤ 31 := by
      unfold daysInMonth; split <;> (try split) <;> omega
    simp only [Bool.and_eq_true, decide_eq_true_eq] at inRange
    omega
  · cases valid

theorem yearMonthDay_text {d : Date} (valid : d.Valid) (rest : List Char) :
    yearMonthDay (d.text.toList ++ rest) = .ok ((d.year, d.month, d.day), rest) := by
  obtain ⟨years, months, days⟩ := valid.bounds
  have yearRead := year_yearText years
    ('-' :: ((padded 2 d.month).toList ++ '-' :: ((padded 2 d.day).toList ++ rest))) (by simp)
  have monthRead := field_two ('-' :: ((padded 2 d.day).toList ++ rest)) months (by omega)
  have dayRead := field_two rest days (by omega)
  have text : d.text.toList ++ rest = (yearText d.year).toList ++
      '-' :: ((padded 2 d.month).toList ++ '-' :: ((padded 2 d.day).toList ++ rest)) := by
    simp [Date.text]
  rw [text, yearMonthDay, yearRead, ok_bind]
  dsimp only
  rw [literal_trimStart '-' (by decide), ok_bind, monthRead, ok_bind]
  dsimp only
  rw [literal_trimStart '-' (by decide), ok_bind, dayRead, ok_bind]
  rfl

theorem finish_nil : finish [] = .ok () := rfl

/-- A date reads back from its text. -/
theorem Date.parse_text {d : Date} (valid : d.Valid) : Date.parse d.text = .ok d := by
  have read := yearMonthDay_text valid []
  rw [List.append_nil] at read
  rw [Date.parse, read, ok_bind]
  dsimp only
  rw [finish_nil, ok_bind, valid]
  rfl

example : Date.parse (Date.text ⟨-10000, 2, 29⟩) = .ok ⟨-10000, 2, 29⟩ := by
  decide

/-! ## Dates and times -/

/-- A fraction written with `w` digits reads back scaled to nanoseconds. -/
theorem fraction_padded {w n : Nat} (positive : 0 < w) (wide : w ≤ 9) (small : n < 10 ^ w) :
    fraction (padded w n).toList = .ok (n * 10 ^ (9 - w), []) := by
  have fits : n ≤ fieldMax := by
    have : 10 ^ w ≤ 10 ^ 9 := Nat.pow_le_pow_right (by omega) wide
    unfold fieldMax; omega
  have read : takeDigits 0 0 9 ((padded w n).toList ++ []) =
      .ok (digitsValue 0 (padded w n).toList, 0 + (padded w n).toList.length, []) :=
    takeDigits_digits (padded_digits w n) (by rw [length_padded positive small]; exact wide)
      (fun _ => by simp) (by rw [length_padded positive small]; omega)
      (by rw [digitsValue_padded]; exact fits)
  rw [List.append_nil, digitsValue_padded, length_padded positive small] at read
  rw [fraction, read, ok_bind]
  simp [Nat.pow_eq]
  rfl

/-- The text of the nanoseconds reads back: nothing for zero, else a point and a fraction. -/
theorem fractionText_read {nano : Nat} (small : nano < 10 ^ 9) :
    nano = 0 ∧ (fractionText nano).toList = [] ∨
      ∃ ds, (fractionText nano).toList = '.' :: ds ∧ fraction ds = .ok (nano, []) := by
  unfold fractionText
  by_cases zero : nano = 0
  · exact .inl ⟨zero, by simp [zero]⟩
  · rw [if_neg (by simpa using zero)]
    right
    -- the fewest of 3, 6 or 9 digits that show the nanoseconds exactly
    by_cases millis : nano % 1000000 = 0
    · rw [if_pos (by simpa using millis)]
      refine ⟨(padded 3 (nano / 1000000)).toList, by simp, ?_⟩
      rw [fraction_padded (by omega) (by omega) (by omega)]
      congr
      omega
    · rw [if_neg (by simpa using millis)]
      by_cases micros : nano % 1000 = 0
      · rw [if_pos (by simpa using micros)]
        refine ⟨(padded 6 (nano / 1000)).toList, by simp, ?_⟩
        rw [fraction_padded (by omega) (by omega) (by omega)]
        congr
        omega
      · rw [if_neg (by simpa using micros)]
        refine ⟨(padded 9 nano).toList, by simp, ?_⟩
        rw [fraction_padded (by omega) (by omega) small]
        simp

/-- A date and time of the calendar: a valid date, a time of day with second 60 for a leap
second, and nanoseconds below a second. -/
structure DateTime.Valid (t : DateTime) : Prop where
  date : t.date.Valid
  hour : t.hour < 24
  minute : t.minute < 60
  second : t.second ≤ 60
  nano : t.nano < 10 ^ 9

instance (t : DateTime) : Decidable t.Valid :=
  decidable_of_iff (t.date.Valid ∧ t.hour < 24 ∧ t.minute < 60 ∧ t.second ≤ 60 ∧ t.nano < 10 ^ 9)
    ⟨fun ⟨d, h, m, s, n⟩ => ⟨d, h, m, s, n⟩, fun ⟨d, h, m, s, n⟩ => ⟨d, h, m, s, n⟩⟩

/-- A date and time reads back from its text. -/
theorem DateTime.parse_text {t : DateTime} (valid : t.Valid) : DateTime.parse t.text = .ok t := by
  have text : t.text.toList = t.date.text.toList ++ 'T' :: ((padded 2 t.hour).toList ++
      ':' :: ((padded 2 t.minute).toList ++ ':' :: ((padded 2 t.second).toList ++
        (fractionText t.nano).toList))) := by
    simp [DateTime.text]
  have hourRead := field_two (':' :: ((padded 2 t.minute).toList ++ ':' ::
    ((padded 2 t.second).toList ++ (fractionText t.nano).toList)))
    ⟨Nat.zero_le _, show t.hour ≤ 23 by have := valid.hour; omega⟩ (by omega)
  have minuteRead := field_two (':' :: ((padded 2 t.second).toList ++ (fractionText t.nano).toList))
    ⟨Nat.zero_le _, show t.minute ≤ 59 by have := valid.minute; omega⟩ (by omega)
  have secondRead := field_two (fractionText t.nano).toList
    ⟨Nat.zero_le _, show t.second ≤ 60 from valid.second⟩ (by omega)
  rw [DateTime.parse, text, yearMonthDay_text valid.date, ok_bind]
  dsimp only
  rw [literal_trimStart 'T' (by decide), ok_bind, hourRead, ok_bind]
  dsimp only
  rw [literal_trimStart ':' (by decide), ok_bind, minuteRead, ok_bind]
  dsimp only
  rw [literal_trimStart ':' (by decide), ok_bind, secondRead, ok_bind]
  dsimp only
  -- the fraction is absent exactly for zero nanoseconds
  obtain ⟨zero, empty⟩ | ⟨ds, point, read⟩ := fractionText_read valid.nano
  · rw [empty]
    dsimp only
    rw [pure_bind, finish_nil, ok_bind, valid.date, ← zero]
    rfl
  · rw [point]
    split
    · rename_i rest same
      obtain ⟨-, rfl⟩ := List.cons.inj same
      rw [read, ok_bind, finish_nil, ok_bind, valid.date]
      rfl
    · rename_i notPoint
      exact absurd rfl (notPoint ds)

end ContactMigration.Calendar
