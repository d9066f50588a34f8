import ContactMigration.Proofs.Documents
import ContactMigration.Proofs.Reading
import ContactMigration.Json.Reader
import ContactMigration.Json.Writer

/-!
# Compact JSON text read back

The compact text of a value is read back as a document that holds the value, with nothing left
over, as long as every number in it is an integer of a 64-bit word (no float is read back as
written) and it nests no deeper than the reader allows (`Plain`). Strings come back through
their escapes, integers through their digits, and arrays and objects item by item and member by
member; every value is read with fuel for the length of its text.

Main statement: `Document.read_render`.
-/

namespace ContactMigration.Json

/-- The text that may follow a value inside a document: nothing, a comma, or a closing bracket
or brace. -/
def Closes (rest : List Char) : Prop :=
  ∀ c ∈ rest.head?, c = ',' ∨ c = ']' ∨ c = '}'

theorem hexValue_hexDigit : ∀ n, n < 16 → hexValue (hexDigit n) = some n := by
  decide

theorem scanString_escapeChar (line column : Nat) (acc : List Char) (c : Char) (more : List Char) :
    ∃ column', scanString line column acc (escapeChar c ++ more) =
      scanString line column' (c :: acc) more := by
  unfold escapeChar
  split_ifs with quote backslash newline carriage tab backspace formfeed control
  · simp only [beq_iff_eq] at quote
    subst quote
    exact ⟨column + 2, by simp [scanString]⟩
  · simp only [beq_iff_eq] at backslash
    subst backslash
    exact ⟨column + 2, by simp [scanString]⟩
  · simp only [beq_iff_eq] at newline
    subst newline
    exact ⟨column + 2, by simp [scanString]⟩
  · simp only [beq_iff_eq] at carriage
    subst carriage
    exact ⟨column + 2, by simp [scanString]⟩
  · simp only [beq_iff_eq] at tab
    subst tab
    exact ⟨column + 2, by simp [scanString]⟩
  · have same : Char.ofNat 8 = c := by
      rw [← Char.ofNat_toNat c, show c.toNat = 8 by simpa using backspace]
    refine ⟨column + 2, ?_⟩
    simp only [List.cons_append, List.nil_append, scanString]
    rw [same]
  · have same : Char.ofNat 12 = c := by
      rw [← Char.ofNat_toNat c, show c.toNat = 12 by simpa using formfeed]
    refine ⟨column + 2, ?_⟩
    simp only [List.cons_append, List.nil_append, scanString]
    rw [same]
  · -- a control character is written as four hex digits, which read back as its code
    have high := hexValue_hexDigit (c.toNat / 16) (by omega)
    have low := hexValue_hexDigit (c.toNat % 16) (by omega)
    have code : c.toNat / 16 * 16 + c.toNat % 16 = c.toNat := by omega
    refine ⟨column + 6, ?_⟩
    have zero : hexValue '0' = some 0 := rfl
    have notTrail : isTrailSurrogate c.toNat = false := by simp [isTrailSurrogate]; omega
    have notLead : isLeadSurrogate c.toNat = false := by simp [isLeadSurrogate]; omega
    simp [scanString, hexQuad, zero, high, low, code, notTrail, notLead, Char.ofNat_toNat]
  · -- any other character stands for itself
    have notQuote : c ≠ '"' := by simpa using quote
    have notBackslash : c ≠ '\\' := by simpa using backslash
    refine ⟨column + c.utf8Size, ?_⟩
    rw [List.singleton_append, scanString.eq_def]
    split
    · contradiction
    · rename_i same
      exact absurd (List.cons.inj same).1 notQuote
    · rename_i same
      exact absurd (List.cons.inj same).1 notBackslash
    · rename_i same
      obtain ⟨rfl, rfl⟩ := List.cons.inj same
      rw [if_neg control]


theorem skipBlank_of_ne (c : Char) (rest : List Char) (line column : Nat)
    (notBlank : c ≠ ' ' ∧ c ≠ '\t' ∧ c ≠ '\r' ∧ c ≠ '\n') :
    skipBlank line column (c :: rest) = ⟨c :: rest, line, column⟩ := by
  obtain ⟨space, tab, carriage, newline⟩ := notBlank
  rw [skipBlank.eq_def]
  split
  · rename_i same; exact absurd (List.cons.inj same).1 space
  · rename_i same; exact absurd (List.cons.inj same).1 tab
  · rename_i same; exact absurd (List.cons.inj same).1 carriage
  · rename_i same; exact absurd (List.cons.inj same).1 newline
  · rfl


theorem scanString_escaped (line : Nat) (rest : List Char) :
    ∀ (s : List Char) (column : Nat) (acc : List Char), ∃ column',
      scanString line column acc (s.flatMap escapeChar ++ '"' :: rest) =
        .ok (String.ofList (acc.reverse ++ s), ⟨rest, line, column'⟩) := by
  intro s
  induction s with
  | nil =>
    intro column acc
    exact ⟨column + 1, by simp [scanString]⟩
  | cons c s ih =>
    intro column acc
    obtain ⟨column', step⟩ := scanString_escapeChar line column acc c
      (s.flatMap escapeChar ++ '"' :: rest)
    obtain ⟨column'', rest'⟩ := ih column' (c :: acc)
    refine ⟨column'', ?_⟩
    rw [List.flatMap_cons, List.append_assoc, step, rest']
    simp

theorem quote_toList (s : String) :
    (quote s).toList = '"' :: (s.toList.flatMap escapeChar ++ ['"']) := by
  simp [quote]

/-! ## Numbers -/

theorem digitOf_eq (c : Char) : digitOf c = if c.isDigit then some (c.toNat - 48) else none := by
  simp only [digitOf, Char.isDigit]
  rfl

theorem overflows_eq_false {acc digit bound : Nat} (fits : acc * 10 + digit ≤ bound) :
    overflows acc digit bound = false := by
  simp only [overflows, Bool.and_eq_false_imp, decide_eq_true_eq, Bool.or_eq_false_iff,
    decide_eq_false_iff_not, not_lt]
  omega

/-- Digits that fit a 64-bit word are read into the significand, up to the text after them. -/
theorem scanSignificand_digits (negative : Bool) (line : Nat) {rest : List Char}
    (stops : ∀ c ∈ rest.head?, c.isDigit = false) :
    ∀ (ds : List Char) (acc column : Nat), (∀ c ∈ ds, c.isDigit = true) →
      digitsValue acc ds ≤ wordMax →
      scanSignificand negative acc line column (ds ++ rest) =
        scanNumberTail negative (digitsValue acc ds) 0 line (column + ds.length) rest := by
  intro ds
  induction ds with
  | nil =>
    intro acc column _ _
    cases rest with
    | nil => rfl
    | cons c rest =>
      have notDigit := stops c rfl
      simp [scanSignificand, digitOf_eq, notDigit, digitsValue]
  | cons d ds ih =>
    intro acc column digits fits
    have digit := digits d (by simp)
    have next : acc * 10 + (d.toNat - 48) ≤ wordMax := (le_digitsValue _ ds).trans fits
    rw [List.cons_append, scanSignificand, digitOf_eq, if_pos digit]
    dsimp only
    rw [overflows_eq_false next, if_neg Bool.false_ne_true,
      ih _ _ (fun c mem => digits c (by simp [mem])) fits]
    simp only [digitsValue, List.foldl_cons, List.length_cons]
    congr 1
    omega

/-- A positive number's decimal digits start with a nonzero one. -/
theorem toDigits_lead {m : Nat} (positive : 0 < m) :
    ∃ c cs, Nat.toDigits 10 m = c :: cs ∧ c ≠ '0' := by
  induction m using Nat.strongRecOn with
  | ind m ih =>
    by_cases small : m < 10
    · rw [Nat.toDigits_of_lt_base small]
      have nonzero : ∀ k < 10, 0 < k → Nat.digitChar k ≠ '0' := by decide
      exact ⟨_, [], rfl, nonzero m small positive⟩
    · rw [Nat.toDigits_of_base_le (by omega) (by omega)]
      obtain ⟨c, cs, lead, nonzero⟩ := ih (m / 10) (by omega) (by omega)
      exact ⟨c, cs ++ [Nat.digitChar (m % 10)], by rw [lead, List.cons_append], nonzero⟩

theorem closes_stops {rest : List Char} (closes : Closes rest) :
    ∀ c ∈ rest.head?, c.isDigit = false := by
  intro c mem
  rcases closes c mem with rfl | rfl | rfl <;> rfl

/-- The digits of a number that fits a 64-bit word are read as its significand. -/
theorem scanNumber_toDigits (negative : Bool) (line column : Nat) {m : Nat} {rest : List Char}
    (closes : Closes rest) (fits : m ≤ wordMax) :
    ∃ column', scanNumber negative line column (Nat.toDigits 10 m ++ rest) =
      scanNumberTail negative m 0 line column' rest := by
  have stops := closes_stops closes
  rcases Nat.eq_zero_or_pos m with rfl | positive
  · refine ⟨column + 1, ?_⟩
    cases rest with
    | nil => rfl
    | cons d rest =>
      have notDigit := stops d rfl
      have zero : Nat.toDigits 10 0 = ['0'] := by decide
      rw [zero]
      simp [scanNumber, notDigit]
  · obtain ⟨c, cs, lead, nonzero⟩ := toDigits_lead positive
    have digits : ∀ d ∈ c :: cs, d.isDigit = true := by
      rw [← lead]
      exact fun d mem => Nat.isDigit_of_mem_toDigits (by omega) (by omega) mem
    have value : digitsValue (c.toNat - 48) cs = m := by
      rw [← digitsValue_toDigits m, lead]
      simp [digitsValue]
    refine ⟨column + 1 + cs.length, ?_⟩
    rw [lead, List.cons_append, scanNumber.eq_def]
    split
    · contradiction
    · rename_i same
      exact absurd (List.cons.inj same).1 nonzero
    · rename_i same
      obtain ⟨rfl, rfl⟩ := List.cons.inj same
      rw [digitOf_eq, if_pos (digits c (by simp))]
      dsimp only
      rw [scanSignificand_digits negative line stops cs _ _
        (fun d mem => digits d (by simp [mem])) (by omega), value]

/-- What follows the digits closes the number: an integer, negated after a minus sign. -/
theorem scanNumberTail_closes (negative : Bool) (m line column : Nat) {rest : List Char}
    (closes : Closes rest) :
    scanNumberTail negative m 0 line column rest =
      if !negative then .ok (.int m, ⟨rest, line, column⟩)
      else if m == 0 then .ok (.float (-0.0), ⟨rest, line, column⟩)
      else if m ≤ 9223372036854775808 then .ok (.int (-(m : Int)), ⟨rest, line, column⟩)
      else .ok (.float (-(m.toUInt64.toFloat)), ⟨rest, line, column⟩) := by
  rw [scanNumberTail.eq_def]
  split
  · rename_i tail
    rcases closes '.' (by simp) with h | h | h <;> cases h
  · rename_i tail
    rcases closes 'e' (by simp) with h | h | h <;> cases h
  · rename_i tail
    rcases closes 'E' (by simp) with h | h | h <;> cases h
  · rfl

theorem toString_int_toList (n : Int) :
    (toString n).toList = (if n < 0 then ['-'] else []) ++ Nat.toDigits 10 n.natAbs := by
  cases n with
  | ofNat m => simp [Int.repr, Nat.repr]
  | negSucc m => simp [Int.repr, Nat.repr, Int.negSucc_lt_zero]

/-! ## The text of a value -/

theorem render_array_toList (js : List Json) :
    (render (.array js)).toList = '[' :: ((renderItems js).toList ++ [']']) := by
  simp [render]

theorem render_object_toList (kvs : List (String × Json)) :
    (render (.object kvs)).toList = '{' :: ((renderMembers kvs).toList ++ ['}']) := by
  simp [render]

/-- The items after the first, each after a comma. -/
theorem renderItems_cons (j : Json) (js : List Json) :
    (renderItems (j :: js)).toList = (render j).toList ++ js.flatMap fun j => ',' :: (render j).toList := by
  induction js generalizing j with
  | nil => simp [renderItems]
  | cons j' js ih => simp [renderItems, ih]

/-- The members after the first, each after a comma. -/
theorem renderMembers_cons (kv : String × Json) (kvs : List (String × Json)) :
    (renderMembers (kv :: kvs)).toList =
      (quote kv.1).toList ++ ':' :: (render kv.2).toList ++
        kvs.flatMap fun kv => ',' :: ((quote kv.1).toList ++ ':' :: (render kv.2).toList) := by
  induction kvs generalizing kv with
  | nil => simp [renderMembers]
  | cons kv' kvs ih => simp [renderMembers, ih]

/-- Values whose text reads back, nested at most `depth` deep: every number is an integer of a
64-bit word, signed or unsigned. -/
inductive Plain : Nat → Json → Prop
  | null {depth : Nat} : Plain depth .null
  | bool {depth : Nat} {b : Bool} : Plain depth (.bool b)
  | int {depth : Nat} {n : Int} : i64Min ≤ n → n ≤ wordMax → Plain depth (.number (.int n))
  | string {depth : Nat} {s : String} : Plain depth (.string s)
  | array {depth : Nat} {js : List Json} : (∀ j ∈ js, Plain depth j) →
      Plain (depth + 1) (.array js)
  | object {depth : Nat} {kvs : List (String × Json)} : (∀ kv ∈ kvs, Plain depth kv.2) →
      Plain (depth + 1) (.object kvs)

theorem Plain.mono {d : Nat} {j : Json} (plain : Plain d j) : ∀ {e : Nat}, d ≤ e → Plain e j := by
  induction plain with
  | null => exact fun _ => .null
  | bool => exact fun _ => .bool
  | int low high => exact fun _ => .int low high
  | string => exact fun _ => .string
  | array _ ih =>
    intro e deeper
    obtain ⟨e, rfl⟩ : ∃ k, e = k + 1 := ⟨e - 1, by omega⟩
    exact .array fun j mem => ih j mem (by omega)
  | object _ ih =>
    intro e deeper
    obtain ⟨e, rfl⟩ : ∃ k, e = k + 1 := ⟨e - 1, by omega⟩
    exact .object fun kv mem => ih kv mem (by omega)

/-- The text of `j`, followed by whatever closes it, reads back with enough fuel as a document that
holds `j`, up to that closing text. -/
def ReadsBack (depth : Nat) (j : Json) : Prop :=
  ∀ (fuel : Nat) (rest : List Char) (line column : Nat), (render j).toList.length ≤ fuel →
    Closes rest → ∃ doc after, readValue fuel depth ⟨(render j).toList ++ rest, line, column⟩ =
      .whole doc after ∧ Doc.Holds doc j ∧ after.rest = rest

theorem readsBack_null (depth : Nat) : ReadsBack depth .null := by
  intro fuel rest line column long _
  obtain ⟨fuel, rfl⟩ : ∃ f, fuel = f + 1 := ⟨fuel - 1, by simp [render] at long; omega⟩
  refine ⟨.null (some ⟨line, column + 4⟩), ⟨rest, line, column + 4⟩, ?_, .null, rfl⟩
  simp [render, readValue, Cursor.skipBlank, skipBlank, scanWord, scalar, Except.map,
    Cursor.here]

theorem readsBack_bool (depth : Nat) (b : Bool) : ReadsBack depth (.bool b) := by
  intro fuel rest line column long _
  obtain ⟨fuel, rfl⟩ : ∃ f, fuel = f + 1 := ⟨fuel - 1, by cases b <;> simp [render] at long <;> omega⟩
  cases b
  · refine ⟨.bool false (some ⟨line, column + 5⟩), ⟨rest, line, column + 5⟩, ?_, .bool, rfl⟩
    simp [render, readValue, Cursor.skipBlank, skipBlank, scanWord, scalar, Except.map,
      Cursor.here]
  · refine ⟨.bool true (some ⟨line, column + 4⟩), ⟨rest, line, column + 4⟩, ?_, .bool, rfl⟩
    simp [render, readValue, Cursor.skipBlank, skipBlank, scanWord, scalar, Except.map,
      Cursor.here]

theorem readsBack_string (depth : Nat) (s : String) : ReadsBack depth (.string s) := by
  intro fuel rest line column long _
  obtain ⟨fuel, rfl⟩ : ∃ f, fuel = f + 1 := ⟨fuel - 1, by simp [render, quote_toList] at long; omega⟩
  obtain ⟨column', scan⟩ := scanString_escaped line rest s.toList (column + 1) []
  refine ⟨.string s (some ⟨line, column'⟩), ⟨rest, line, column'⟩, ?_, .string, rfl⟩
  simp only [render, quote_toList, List.cons_append, List.append_assoc]
  simp [readValue, Cursor.skipBlank, skipBlank, scalar, Except.map, scan, Cursor.here]

theorem notBlank_of_isDigit {c : Char} (digit : c.isDigit = true) :
    c ≠ ' ' ∧ c ≠ '\t' ∧ c ≠ '\r' ∧ c ≠ '\n' := by
  refine ⟨?_, ?_, ?_, ?_⟩ <;>
  · rintro rfl
    simp at digit

/-- A value that starts with a digit is a number. -/
theorem readValue_digit {fuel depth line column : Nat} {c : Char} {cs : List Char} {n : Number}
    {after : Cursor} (digit : c.isDigit = true)
    (scan : scanNumber false line column (c :: cs) = .ok (n, after)) :
    readValue (fuel + 1) depth ⟨c :: cs, line, column⟩ =
      .whole (.number n (some after.here)) after := by
  simp only [readValue, Cursor.skipBlank, skipBlank_of_ne c cs line column (notBlank_of_isDigit digit)]
  split
  next => contradiction
  iterate 7
    next rest same =>
      rw [(List.cons.inj same).1] at digit
      simp at digit
  next ch rest _ _ _ _ _ _ _ same =>
    obtain ⟨rfl, rfl⟩ := List.cons.inj same
    simp [digit, scan, scalar, Except.map]

theorem toDigits_cons (m : Nat) : ∃ c cs, Nat.toDigits 10 m = c :: cs := by
  rcases Nat.eq_zero_or_pos m with rfl | positive
  · exact ⟨'0', [], by decide⟩
  · obtain ⟨c, cs, lead, -⟩ := toDigits_lead positive
    exact ⟨c, cs, lead⟩

theorem render_int_toList (n : Int) :
    (render (.number (.int n))).toList =
      (if n < 0 then ['-'] else []) ++ Nat.toDigits 10 n.natAbs := by
  simp only [render, Number.render, toString_int_toList]

theorem readsBack_int (depth : Nat) {n : Int} (low : i64Min ≤ n) (high : n ≤ wordMax) :
    ReadsBack depth (.number (.int n)) := by
  intro fuel rest line column long closes
  obtain ⟨c, cs, digits⟩ := toDigits_cons n.natAbs
  obtain ⟨fuel, rfl⟩ : ∃ f, fuel = f + 1 :=
    ⟨fuel - 1, by rw [render_int_toList, digits] at long; split at long <;> simp at long <;> omega⟩
  have fits : n.natAbs ≤ wordMax := by simp only [i64Min, wordMax] at low high ⊢; omega
  by_cases negative : n < 0
  · -- a minus sign, then the digits of the magnitude
    obtain ⟨column', scan⟩ := scanNumber_toDigits true line (column + 1) closes fits
    have magnitude : (n.natAbs == 0) = false ∧ n.natAbs ≤ 9223372036854775808 := by
      simp only [i64Min] at low
      constructor
      · simp only [beq_eq_false_iff_ne, ne_eq, Int.natAbs_eq_zero]; omega
      · omega
    rw [scanNumberTail_closes true _ _ _ closes] at scan
    simp only [Bool.not_true, Bool.false_eq_true, if_false, magnitude.1, magnitude.2,
      if_true] at scan
    have value : -|n| = n := by rw [abs_of_neg negative, neg_neg]
    refine ⟨.number (.int n) (some ⟨line, column'⟩), ⟨rest, line, column'⟩, ?_, .number, rfl⟩
    rw [render_int_toList, if_pos negative, List.singleton_append, List.cons_append]
    simp [readValue, Cursor.skipBlank, skipBlank, scalar, Except.map, scan, value, Cursor.here]
  · obtain ⟨column', scan⟩ := scanNumber_toDigits false line column closes fits
    rw [scanNumberTail_closes false _ _ _ closes] at scan
    simp only [Bool.not_false, if_true] at scan
    have value : (n.natAbs : Int) = n := by omega
    have mem : c ∈ Nat.toDigits 10 n.natAbs := by simp [digits]
    have digit : c.isDigit = true := Nat.isDigit_of_mem_toDigits (by omega) (by omega) mem
    rw [digits, List.cons_append] at scan
    refine ⟨.number (.int n) (some ⟨line, column'⟩), ⟨rest, line, column'⟩, ?_, .number, rfl⟩
    rw [render_int_toList, if_neg negative, List.nil_append, digits, List.cons_append,
      readValue_digit digit scan, value]
    rfl

/-! ## Arrays and objects -/

/-- A character that may start a value: no blank and no closing bracket. -/
def StartsValue (h : Char) : Prop :=
  h ≠ ' ' ∧ h ≠ '\t' ∧ h ≠ '\r' ∧ h ≠ '\n' ∧ h ≠ ']'

instance (h : Char) : Decidable (StartsValue h) :=
  inferInstanceAs (Decidable (h ≠ ' ' ∧ h ≠ '\t' ∧ h ≠ '\r' ∧ h ≠ '\n' ∧ h ≠ ']'))

theorem readItems_close (fuel depth line column : Nat) (first : Bool) (rest : List Char) :
    readItems (fuel + 1) depth first ⟨']' :: rest, line, column⟩ =
      .whole .close ⟨rest, line, column + 1⟩ := by
  simp [readItems, Cursor.skipBlank, skipBlank, Cursor.next, Char.utf8Size]

theorem readItems_comma {fuel depth line column : Nat} {h : Char} {text : List Char} {doc : Doc}
    {after : Cursor} {items : Items} {after' : Cursor} (starts : StartsValue h)
    (value : readValue fuel depth ⟨h :: text, line, column + 1⟩ = .whole doc after)
    (others : readItems fuel depth false after = .whole items after') :
    readItems (fuel + 1) depth false ⟨',' :: h :: text, line, column⟩ =
      .whole (.cons doc items) after' := by
  obtain ⟨space, tab, carriage, newline, close⟩ := starts
  have blanks := skipBlank_of_ne h text line (column + 1) ⟨space, tab, carriage, newline⟩
  have comma := skipBlank_of_ne ',' (h :: text) line column (by decide)
  have step : Cursor.next ⟨',' :: h :: text, line, column⟩ = ⟨h :: text, line, column + 1⟩ := by
    simp [Cursor.next, Char.utf8Size]
  simp only [readItems, Cursor.skipBlank, comma, step, blanks, Bool.false_eq_true, if_false]
  split
  next rest same => exact absurd (List.cons.inj same).1 close
  next same => contradiction
  next => simp [value, others]

theorem readItems_first {fuel depth line column : Nat} {h : Char} {text : List Char} {doc : Doc}
    {after : Cursor} {items : Items} {after' : Cursor} (starts : StartsValue h)
    (value : readValue fuel depth ⟨h :: text, line, column⟩ = .whole doc after)
    (others : readItems fuel depth false after = .whole items after') :
    readItems (fuel + 1) depth true ⟨h :: text, line, column⟩ = .whole (.cons doc items) after' := by
  obtain ⟨space, tab, carriage, newline, close⟩ := starts
  have blanks := skipBlank_of_ne h text line column ⟨space, tab, carriage, newline⟩
  simp only [readItems, Cursor.skipBlank, blanks]
  split
  next same => contradiction
  next rest same => exact absurd (List.cons.inj same).1 close
  next rest same =>
    obtain ⟨rfl, rfl⟩ := List.cons.inj same
    simp [value, others]
  next => simp [value, others]

theorem readMembers_close (fuel depth line column : Nat) (first : Bool) (rest : List Char) :
    readMembers (fuel + 1) depth first ⟨'}' :: rest, line, column⟩ =
      .whole (.close (some ⟨line, column + 1⟩)) ⟨rest, line, column + 1⟩ := by
  simp [readMembers, Cursor.skipBlank, skipBlank, Cursor.next, Cursor.here, Char.utf8Size]

theorem readMembers_first {fuel depth line column column' : Nat} {keyText text : List Char}
    {key : String} {doc : Doc} {after : Cursor} {members : Members} {after' : Cursor}
    (scan : scanString line (column + 1) [] keyText = .ok (key, ⟨':' :: text, line, column'⟩))
    (value : readValue fuel depth ⟨text, line, column' + 1⟩ = .whole doc after)
    (others : readMembers fuel depth false after = .whole members after') :
    readMembers (fuel + 1) depth true ⟨'"' :: keyText, line, column⟩ =
      .whole (.cons key (some ⟨line, column'⟩) doc members) after' := by
  simp [readMembers, Cursor.skipBlank, skipBlank, Cursor.next, Cursor.here, scan, Char.utf8Size,
    value, others]

theorem readMembers_comma {fuel depth line column column' : Nat} {keyText text : List Char}
    {key : String} {doc : Doc} {after : Cursor} {members : Members} {after' : Cursor}
    (scan : scanString line (column + 2) [] keyText = .ok (key, ⟨':' :: text, line, column'⟩))
    (value : readValue fuel depth ⟨text, line, column' + 1⟩ = .whole doc after)
    (others : readMembers fuel depth false after = .whole members after') :
    readMembers (fuel + 1) depth false ⟨',' :: '"' :: keyText, line, column⟩ =
      .whole (.cons key (some ⟨line, column'⟩) doc members) after' := by
  simp [readMembers, Cursor.skipBlank, skipBlank, Cursor.next, Cursor.here, scan, Char.utf8Size,
    value, others]

theorem render_starts {d : Nat} {j : Json} (plain : Plain d j) :
    ∃ h t, (render j).toList = h :: t ∧ StartsValue h := by
  cases plain with
  | null => exact ⟨'n', ['u', 'l', 'l'], by simp [render], by decide⟩
  | @bool _ b =>
    cases b
    · exact ⟨'f', ['a', 'l', 's', 'e'], by simp [render], by decide⟩
    · exact ⟨'t', ['r', 'u', 'e'], by simp [render], by decide⟩
  | @int _ n _ _ =>
    obtain ⟨c, cs, digits⟩ := toDigits_cons n.natAbs
    by_cases negative : n < 0
    · exact ⟨'-', Nat.toDigits 10 n.natAbs, by rw [render_int_toList, if_pos negative]; rfl,
        by decide⟩
    · have mem : c ∈ Nat.toDigits 10 n.natAbs := by simp [digits]
      have digit : c.isDigit = true := Nat.isDigit_of_mem_toDigits (by omega) (by omega) mem
      obtain ⟨space, tab, carriage, newline⟩ := notBlank_of_isDigit digit
      refine ⟨c, cs, by rw [render_int_toList, if_neg negative, digits]; rfl,
        space, tab, carriage, newline, ?_⟩
      rintro rfl
      simp at digit
  | @string _ s =>
    exact ⟨'"', s.toList.flatMap escapeChar ++ ['"'], by simp [render, quote_toList], by decide⟩
  | @array _ js _ => exact ⟨'[', (renderItems js).toList ++ [']'], render_array_toList js, by decide⟩
  | @object _ kvs _ =>
    exact ⟨'{', (renderMembers kvs).toList ++ ['}'], render_object_toList kvs, by decide⟩

theorem closes_items (js : List Json) (rest : List Char) :
    Closes ((js.flatMap fun j => ',' :: (render j).toList) ++ ']' :: rest) := by
  cases js <;> simp [Closes]

theorem closes_members (kvs : List (String × Json)) (rest : List Char) :
    Closes ((kvs.flatMap fun kv => ',' :: ((quote kv.1).toList ++ ':' :: (render kv.2).toList)) ++
      '}' :: rest) := by
  cases kvs <;> simp [Closes]

section Nested

variable {d depth : Nat}

/-- The items after the first, each after its comma, read back up to the closing bracket. -/
theorem readItems_rest {js : List Json} (each : ∀ j ∈ js, Plain d j ∧ ReadsBack depth j) :
    ∀ (fuel : Nat) (rest : List Char) (line column : Nat),
      (js.flatMap fun j => ',' :: (render j).toList).length < fuel →
      ∃ items after, readItems fuel depth false
          ⟨(js.flatMap fun j => ',' :: (render j).toList) ++ ']' :: rest, line, column⟩ =
        .whole items after ∧ Items.Holds items js ∧ after.rest = rest := by
  induction js with
  | nil =>
    intro fuel rest line column long
    obtain ⟨fuel, rfl⟩ : ∃ f, fuel = f + 1 := ⟨fuel - 1, by omega⟩
    exact ⟨_, _, readItems_close fuel depth line column false rest, .close, rfl⟩
  | cons j js ih =>
    intro fuel rest line column long
    obtain ⟨plain, back⟩ := each j List.mem_cons_self
    obtain ⟨h, t, text, starts⟩ := render_starts plain
    simp only [List.flatMap_cons, List.length_append, List.length_cons] at long
    obtain ⟨fuel, rfl⟩ : ∃ f, fuel = f + 1 := ⟨fuel - 1, by omega⟩
    obtain ⟨doc, ⟨afterText, afterLine, afterColumn⟩, read, holds, restAfter⟩ :=
      back fuel _ line (column + 1) (by omega) (closes_items js rest)
    simp only at restAfter
    subst restAfter
    obtain ⟨items, after, others, held, restEnd⟩ :=
      ih (fun j mem => each j (List.mem_cons_of_mem _ mem)) fuel rest afterLine afterColumn
        (by omega)
    rw [text, List.cons_append] at read
    refine ⟨_, _, ?_, .cons holds held, restEnd⟩
    rw [List.flatMap_cons, text, List.cons_append, List.cons_append, List.append_assoc]
    exact readItems_comma starts read others

/-- All the items of an array read back up to its closing bracket. -/
theorem readItems_all {js : List Json} (each : ∀ j ∈ js, Plain d j ∧ ReadsBack depth j)
    (fuel : Nat) (rest : List Char) (line column : Nat)
    (long : (renderItems js).toList.length < fuel) :
    ∃ items after, readItems fuel depth true ⟨(renderItems js).toList ++ ']' :: rest, line, column⟩ =
      .whole items after ∧ Items.Holds items js ∧ after.rest = rest := by
  obtain ⟨fuel, rfl⟩ : ∃ f, fuel = f + 1 := ⟨fuel - 1, by omega⟩
  cases js with
  | nil => exact ⟨_, _, readItems_close fuel depth line column true rest, .close, rfl⟩
  | cons j js =>
    obtain ⟨plain, back⟩ := each j List.mem_cons_self
    obtain ⟨h, t, text, starts⟩ := render_starts plain
    rw [renderItems_cons] at long ⊢
    simp only [List.length_append, text, List.length_cons] at long
    obtain ⟨doc, ⟨afterText, afterLine, afterColumn⟩, read, holds, restAfter⟩ :=
      back fuel _ line column (by rw [text]; simp; omega) (closes_items js rest)
    simp only at restAfter
    subst restAfter
    obtain ⟨items, after, others, held, restEnd⟩ :=
      readItems_rest (fun j mem => each j (List.mem_cons_of_mem _ mem)) fuel rest afterLine
        afterColumn (by omega)
    rw [text, List.cons_append] at read
    refine ⟨_, _, ?_, .cons holds held, restEnd⟩
    simp only [text, List.cons_append, List.append_assoc]
    exact readItems_first starts read others

/-- The members after the first, each after its comma, read back up to the closing brace. -/
theorem readMembers_rest {kvs : List (String × Json)}
    (each : ∀ kv ∈ kvs, Plain d kv.2 ∧ ReadsBack depth kv.2) :
    ∀ (fuel : Nat) (rest : List Char) (line column : Nat),
      (kvs.flatMap fun kv => ',' :: ((quote kv.1).toList ++ ':' :: (render kv.2).toList)).length <
        fuel →
      ∃ members after, readMembers fuel depth false
          ⟨(kvs.flatMap fun kv => ',' :: ((quote kv.1).toList ++ ':' :: (render kv.2).toList)) ++
            '}' :: rest, line, column⟩ =
        .whole members after ∧ Members.Holds members kvs ∧ after.rest = rest := by
  induction kvs with
  | nil =>
    intro fuel rest line column long
    obtain ⟨fuel, rfl⟩ : ∃ f, fuel = f + 1 := ⟨fuel - 1, by omega⟩
    exact ⟨_, _, readMembers_close fuel depth line column false rest, .close, rfl⟩
  | cons kv kvs ih =>
    obtain ⟨key, value⟩ := kv
    intro fuel rest line column long
    obtain ⟨-, back⟩ := each (key, value) List.mem_cons_self
    simp only [List.flatMap_cons, List.length_append, List.length_cons] at long
    obtain ⟨fuel, rfl⟩ : ∃ f, fuel = f + 1 := ⟨fuel - 1, by omega⟩
    have tail := closes_members kvs rest
    obtain ⟨column', scan⟩ := scanString_escaped line
      (':' :: ((render value).toList ++ (kvs.flatMap fun kv =>
        ',' :: ((quote kv.1).toList ++ ':' :: (render kv.2).toList)) ++ '}' :: rest))
      key.toList (column + 2) []
    simp only [List.reverse_nil, List.nil_append, String.ofList_toList] at scan
    obtain ⟨doc, ⟨afterText, afterLine, afterColumn⟩, read, holds, restAfter⟩ :=
      back fuel _ line (column' + 1) (by simp [quote_toList] at long ⊢; omega) tail
    simp only at restAfter
    subst restAfter
    obtain ⟨members, after, others, held, restEnd⟩ :=
      ih (fun kv mem => each kv (List.mem_cons_of_mem _ mem)) fuel rest afterLine afterColumn
        (by simp [quote_toList] at long ⊢; omega)
    refine ⟨.cons key (some ⟨line, column'⟩) doc members, after, ?_, .cons holds held, restEnd⟩
    simp only [List.flatMap_cons, quote_toList, List.cons_append, List.append_assoc]
      at scan read others ⊢
    exact readMembers_comma scan read others

/-- All the members of an object read back up to its closing brace. -/
theorem readMembers_all {kvs : List (String × Json)}
    (each : ∀ kv ∈ kvs, Plain d kv.2 ∧ ReadsBack depth kv.2)
    (fuel : Nat) (rest : List Char) (line column : Nat)
    (long : (renderMembers kvs).toList.length < fuel) :
    ∃ members after, readMembers fuel depth true
        ⟨(renderMembers kvs).toList ++ '}' :: rest, line, column⟩ =
      .whole members after ∧ Members.Holds members kvs ∧ after.rest = rest := by
  obtain ⟨fuel, rfl⟩ : ∃ f, fuel = f + 1 := ⟨fuel - 1, by omega⟩
  cases kvs with
  | nil => exact ⟨_, _, readMembers_close fuel depth line column true rest, .close, rfl⟩
  | cons kv kvs =>
    obtain ⟨key, value⟩ := kv
    obtain ⟨-, back⟩ := each (key, value) List.mem_cons_self
    rw [renderMembers_cons] at long ⊢
    simp only [List.length_append, List.length_cons] at long
    obtain ⟨column', scan⟩ := scanString_escaped line
      (':' :: ((render value).toList ++ (kvs.flatMap fun kv =>
        ',' :: ((quote kv.1).toList ++ ':' :: (render kv.2).toList)) ++ '}' :: rest))
      key.toList (column + 1) []
    simp only [List.reverse_nil, List.nil_append, String.ofList_toList] at scan
    obtain ⟨doc, ⟨afterText, afterLine, afterColumn⟩, read, holds, restAfter⟩ :=
      back fuel _ line (column' + 1) (by simp [quote_toList] at long ⊢; omega)
        (closes_members kvs rest)
    simp only at restAfter
    subst restAfter
    obtain ⟨members, after, others, held, restEnd⟩ :=
      readMembers_rest (fun kv mem => each kv (List.mem_cons_of_mem _ mem)) fuel rest afterLine
        afterColumn (by simp [quote_toList] at long ⊢; omega)
    refine ⟨.cons key (some ⟨line, column'⟩) doc members, after, ?_, .cons holds held, restEnd⟩
    simp only [quote_toList, List.cons_append, List.append_assoc] at scan read others ⊢
    exact readMembers_first scan read others

end Nested

/-! ## Whole values -/

/-- A plain value nested less deep than the reader allows reads back from its text. -/
theorem Plain.readsBack {d : Nat} {j : Json} (plain : Plain d j) :
    ∀ depth, d < depth → ReadsBack depth j := by
  induction plain with
  | null => exact fun depth _ => readsBack_null depth
  | bool => exact fun depth _ => readsBack_bool depth _
  | int low high => exact fun depth _ => readsBack_int depth low high
  | string => exact fun depth _ => readsBack_string depth _
  | @array d js plains ih =>
    intro depth room fuel rest line column long closes
    obtain ⟨depth, rfl⟩ : ∃ k, depth = k + 1 := ⟨depth - 1, by omega⟩
    rw [render_array_toList] at long ⊢
    simp only [List.length_cons, List.length_append] at long
    obtain ⟨fuel, rfl⟩ : ∃ f, fuel = f + 1 := ⟨fuel - 1, by omega⟩
    -- the items are read one level deeper
    obtain ⟨items, after, read, holds, restAfter⟩ := readItems_all
      (fun j mem => ⟨plains j mem, ih j mem depth (by omega)⟩) fuel rest line (column + 1)
      (by omega)
    refine ⟨.array (some ⟨line, column⟩) items, after, ?_, .array holds, restAfter⟩
    have room : ¬depth + 1 ≤ 1 := by omega
    simp [readValue, Cursor.skipBlank, skipBlank, Cursor.next, Char.utf8Size, room, read,
      Cursor.here]
  | @object d kvs plains ih =>
    intro depth room fuel rest line column long closes
    obtain ⟨depth, rfl⟩ : ∃ k, depth = k + 1 := ⟨depth - 1, by omega⟩
    rw [render_object_toList] at long ⊢
    simp only [List.length_cons, List.length_append] at long
    obtain ⟨fuel, rfl⟩ : ∃ f, fuel = f + 1 := ⟨fuel - 1, by omega⟩
    obtain ⟨members, after, read, holds, restAfter⟩ := readMembers_all
      (fun kv mem => ⟨plains kv mem, ih kv mem depth (by omega)⟩) fuel rest line (column + 1)
      (by omega)
    refine ⟨.object (some ⟨line, column⟩) members, after, ?_, .object holds (List.Perm.refl _),
      restAfter⟩
    have room : ¬depth + 1 ≤ 1 := by omega
    simp [readValue, Cursor.skipBlank, skipBlank, Cursor.next, Char.utf8Size, room, read,
      Cursor.here]

/-- The text of a plain value nested at most 127 deep is read as a document that holds the value,
with nothing after it. -/
theorem Document.read_render {j : Json} (plain : Plain 127 j) :
    Doc.Holds (Document.read (render j)).root j ∧ (Document.read (render j)).trailing = none := by
  obtain ⟨doc, ⟨afterText, afterLine, afterColumn⟩, read, holds, restAfter⟩ :=
    plain.readsBack depthLimit (by decide) (4 * ((render j).length + 1)) [] 1 0
      (by simp only [String.length_toList]; omega) (by simp [Closes])
  simp only at restAfter
  subst restAfter
  rw [List.append_nil] at read
  simp [Document.read, Cursor.start, read, Cursor.skipBlank, skipBlank, holds]

end ContactMigration.Json
