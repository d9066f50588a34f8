import ContactMigration.Json.Doc
import ContactMigration.Decimal.Nearest

/-!
Scanning the tokens of a JSON text: blanks, words, strings and numbers.

Places count bytes: a fault found after reading one byte of a character that takes several
stands one byte after the character's start, and a newline begins a new line at column 0.

Strings: a raw control character, an unknown escape, a lone surrogate escape or a leading
surrogate not followed by `\u` and a trailing one are faults. Numbers: an integer that fits a
64-bit word (unsigned, or negative down to `-2^63`) stays an integer, `-0` and every other
number become floats. A float is computed as the decimal significand (truncated to 64 bits, its
dropped digits moving into the exponent) times or divided by one correctly rounded power of
ten; a result beyond the largest float is `number out of range`.
-/

namespace ContactMigration.Json

/-- The reading position: what is left of the text, and the line and column reached. -/
structure Cursor where
  rest : List Char
  line : Nat
  column : Nat
  deriving Inhabited

namespace Cursor

/-- The cursor at the start of a text. -/
def start (text : String) : Cursor :=
  ⟨text.toList, 1, 0⟩

/-- The place of the cursor. -/
def here (c : Cursor) : Pos :=
  ⟨c.line, c.column⟩

/-- The place after the first byte of the next character, or the end of the text. -/
def ahead (c : Cursor) : Pos :=
  match c.rest with
  | [] => c.here
  | '\n' :: _ => ⟨c.line + 1, 0⟩
  | _ :: _ => ⟨c.line, c.column + 1⟩

/-- The cursor after the next character. -/
def next (c : Cursor) : Cursor :=
  match c.rest with
  | [] => c
  | '\n' :: rest => ⟨rest, c.line + 1, 0⟩
  | ch :: rest => ⟨rest, c.line, c.column + ch.utf8Size⟩

end Cursor

/-- The cursor after the blanks (space, tab, newline, carriage return) that start `rest`. -/
def skipBlank (line column : Nat) : List Char → Cursor
  | ' ' :: rest => skipBlank line (column + 1) rest
  | '\t' :: rest => skipBlank line (column + 1) rest
  | '\r' :: rest => skipBlank line (column + 1) rest
  | '\n' :: rest => skipBlank (line + 1) 0 rest
  | rest => ⟨rest, line, column⟩

/-- The cursor after the blanks at its position. -/
def Cursor.skipBlank (c : Cursor) : Cursor :=
  Json.skipBlank c.line c.column c.rest

/-- The place after the first byte of `c`, read at line `line` and column `column`. -/
def oneByteAfter (line column : Nat) (c : Char) : Pos :=
  if c == '\n' then ⟨line + 1, 0⟩ else ⟨line, column + 1⟩

/-- The place after `n` bytes of `rest`, or after all of it when it is shorter. -/
def afterBytes (line column : Nat) : Nat → List Char → Pos
  | 0, _ => ⟨line, column⟩
  | _, [] => ⟨line, column⟩
  | n + 1, c :: rest =>
    if c == '\n' then afterBytes (line + 1) 0 n rest
    else if c.utf8Size ≤ n + 1 then afterBytes line (column + c.utf8Size) (n + 1 - c.utf8Size) rest
    else ⟨line, column + n + 1⟩

/-- The number of bytes of `rest`, up to `limit`. -/
def bytesUpTo (limit : Nat) : List Char → Nat
  | [] => 0
  | c :: rest => if c.utf8Size ≥ limit then limit else c.utf8Size + bytesUpTo (limit - c.utf8Size) rest

/-- The value of an ASCII hex digit. -/
def hexValue (c : Char) : Option Nat :=
  if '0' ≤ c && c ≤ '9' then some (c.toNat - '0'.toNat)
  else if 'a' ≤ c && c ≤ 'f' then some (c.toNat - 'a'.toNat + 10)
  else if 'A' ≤ c && c ≤ 'F' then some (c.toNat - 'A'.toNat + 10)
  else none

/-- The value of four hex digits. -/
def hexQuad (a b c d : Char) : Option Nat := do
  return (← hexValue a) * 4096 + (← hexValue b) * 256 + (← hexValue c) * 16 + (← hexValue d)

/-- The fault of a `\u` escape whose four bytes at `rest` are not hex digits: the end of the text
when fewer than four bytes are left, else an invalid escape after the four bytes. -/
def hexFailure (line column : Nat) (rest : List Char) : Failure :=
  if bytesUpTo 4 rest < 4 then ⟨.eofWhileParsingString, afterBytes line column (4 * rest.length) rest⟩
  else ⟨.invalidEscape, afterBytes line column 4 rest⟩

/-- The character of a surrogate pair. -/
def pairChar (lead trail : Nat) : Char :=
  Char.ofNat (0x10000 + (lead - 0xD800) * 0x400 + (trail - 0xDC00))

/-- Whether a code unit is a trailing surrogate. -/
def isTrailSurrogate (n : Nat) : Bool :=
  0xDC00 ≤ n && n ≤ 0xDFFF

/-- Whether a code unit is a leading surrogate. -/
def isLeadSurrogate (n : Nat) : Bool :=
  0xD800 ≤ n && n ≤ 0xDBFF

/-- The rest of a string after its opening quote: the characters read so far are `acc`,
reversed. Gives the string and the cursor after the closing quote. -/
def scanString (line column : Nat) (acc : List Char) : List Char → Except Failure (String × Cursor)
  | [] => .error ⟨.eofWhileParsingString, ⟨line, column⟩⟩
  | '"' :: rest => .ok (String.ofList acc.reverse, ⟨rest, line, column + 1⟩)
  | '\\' :: rest =>
    match rest with
    | [] => .error ⟨.eofWhileParsingString, ⟨line, column + 1⟩⟩
    | '"' :: tail => scanString line (column + 2) ('"' :: acc) tail
    | '\\' :: tail => scanString line (column + 2) ('\\' :: acc) tail
    | '/' :: tail => scanString line (column + 2) ('/' :: acc) tail
    | 'b' :: tail => scanString line (column + 2) (Char.ofNat 8 :: acc) tail
    | 'f' :: tail => scanString line (column + 2) (Char.ofNat 12 :: acc) tail
    | 'n' :: tail => scanString line (column + 2) ('\n' :: acc) tail
    | 'r' :: tail => scanString line (column + 2) ('\r' :: acc) tail
    | 't' :: tail => scanString line (column + 2) ('\t' :: acc) tail
    | 'u' :: a :: b :: c :: d :: tail =>
      match hexQuad a b c d with
      | none => .error (hexFailure line (column + 2) (a :: b :: c :: d :: tail))
      | some n =>
        let col := column + 6
        if isTrailSurrogate n then .error ⟨.loneLeadingSurrogateInHexEscape, ⟨line, col⟩⟩
        else if !isLeadSurrogate n then scanString line col (Char.ofNat n :: acc) tail
        else
          match tail with
          | [] => .error ⟨.eofWhileParsingString, ⟨line, col⟩⟩
          | '\\' :: 'u' :: a2 :: b2 :: c2 :: d2 :: tail2 =>
            match hexQuad a2 b2 c2 d2 with
            | none => .error (hexFailure line (col + 2) (a2 :: b2 :: c2 :: d2 :: tail2))
            | some n2 =>
              if isTrailSurrogate n2 then scanString line (col + 6) (pairChar n n2 :: acc) tail2
              else .error ⟨.loneLeadingSurrogateInHexEscape, ⟨line, col + 6⟩⟩
          | '\\' :: 'u' :: short => .error (hexFailure line (col + 2) short)
          | '\\' :: [] => .error ⟨.eofWhileParsingString, ⟨line, col + 1⟩⟩
          | '\\' :: other :: _ =>
            .error ⟨.unexpectedEndOfHexEscape, oneByteAfter line (col + 1) other⟩
          | other :: _ => .error ⟨.unexpectedEndOfHexEscape, oneByteAfter line col other⟩
    | 'u' :: short => .error (hexFailure line (column + 2) short)
    | other :: _ => .error ⟨.invalidEscape, oneByteAfter line (column + 1) other⟩
  | c :: rest =>
    if c.toNat < 0x20 then .error ⟨.controlCharacterWhileParsingString, oneByteAfter line column c⟩
    else scanString line (column + c.utf8Size) (c :: acc) rest

/-- The cursor after the letters `word` at `rest`, which must spell them. -/
def scanWord (line column : Nat) : List Char → List Char → Except Failure Cursor
  | [], rest => .ok ⟨rest, line, column⟩
  | _ :: _, [] => .error ⟨.eofWhileParsingValue, ⟨line, column⟩⟩
  | w :: word, c :: rest =>
    if c == w then scanWord line (column + 1) word rest
    else .error ⟨.expectedSomeIdent, oneByteAfter line column c⟩

/-- The largest 64-bit word. -/
def wordMax : Nat := 18446744073709551615

/-- The largest 32-bit signed integer. -/
def int32Max : Int := 2147483647

/-- The least 32-bit signed integer. -/
def int32Min : Int := -2147483648

/-- Clamps to the 32-bit signed range. -/
def clamp32 (n : Int) : Int :=
  max int32Min (min int32Max n)

/-- Whether `acc * 10 + digit` exceeds `bound`. -/
def overflows (acc digit bound : Nat) : Bool :=
  acc ≥ bound / 10 && (acc > bound / 10 || digit > bound % 10)

/-- The value of a decimal digit character, if it is one. -/
def digitOf (c : Char) : Option Nat :=
  if '0' ≤ c && c ≤ '9' then some (c.toNat - '0'.toNat) else none

/-- The float `significand * 10^exponent`, multiplying or dividing by one power of ten; `none`
when the product is infinite. -/
def floatOfParts (significand : Nat) (exponent : Int) : Option Float :=
  go 8 significand.toUInt64.toFloat exponent
where
  /-- Divides by `1e308` while the exponent is below the table. -/
  go : Nat → Float → Int → Option Float
    | 0, f, _ => some f
    | fuel + 1, f, e =>
      if e.natAbs ≤ 308 then
        if e ≥ 0 then
          let g := f * Decimal.pow10 e.natAbs
          if g.isInf then none else some g
        else some (f / Decimal.pow10 e.natAbs)
      else if f == 0 then some f
      else if e ≥ 0 then none
      else go fuel (f / Decimal.pow10 308) (e + 308)

/-- The number with that sign, significand and exponent, or `number out of range` at the cursor. -/
def finishFloat (negative : Bool) (significand : Nat) (exponent : Int) (after : Cursor) :
    Except Failure (Number × Cursor) :=
  match floatOfParts significand exponent with
  | some f => .ok (.float (if negative then -f else f), after)
  | none => .error ⟨.numberOutOfRange, after.here⟩

/-- Skips digits. -/
def skipDigits (line column : Nat) : List Char → Cursor
  | c :: rest => if c.isDigit then skipDigits line (column + 1) rest else ⟨c :: rest, line, column⟩
  | [] => ⟨[], line, column⟩

/-- The digits of an exponent after its first digit; `value` is the exponent so far. -/
def scanExponentDigits (negative : Bool) (significand : Nat) (start : Int) (positive : Bool)
    (value : Nat) (line column : Nat) : List Char → Except Failure (Number × Cursor)
  | c :: rest =>
    match digitOf c with
    | some d =>
      if overflows value d (int32Max.toNat) then
        -- an exponent beyond 32 bits: infinity is refused, anything else is zero
        if significand != 0 && positive then .error ⟨.numberOutOfRange, ⟨line, column + 1⟩⟩
        else
          let after := skipDigits line (column + 1) rest
          .ok (.float (if negative then -0.0 else 0.0), after)
      else scanExponentDigits negative significand start positive (value * 10 + d) line (column + 1) rest
    | none =>
      let e := if positive then clamp32 (start + value) else clamp32 (start - value)
      finishFloat negative significand e ⟨c :: rest, line, column⟩
  | [] =>
    let e := if positive then clamp32 (start + value) else clamp32 (start - value)
    finishFloat negative significand e ⟨[], line, column⟩

/-- An exponent, at its `e` or `E`. -/
def scanExponent (negative : Bool) (significand : Nat) (start : Int) (line column : Nat)
    (rest : List Char) : Except Failure (Number × Cursor) :=
  -- `rest` follows the `e`
  let (positive, rest, column) :=
    match rest with
    | '+' :: tail => (true, tail, column + 2)
    | '-' :: tail => (false, tail, column + 2)
    | _ => (true, rest, column + 1)
  match rest with
  | [] => .error ⟨.eofWhileParsingValue, ⟨line, column⟩⟩
  | c :: tail =>
    match digitOf c with
    | some d => scanExponentDigits negative significand start positive d line (column + 1) tail
    | none => .error ⟨.invalidNumber, oneByteAfter line column c⟩

/-- The end of a number after digits that no longer fit: digits are skipped, then an exponent
may follow. -/
def scanAfterOverflow (negative : Bool) (significand : Nat) (exponent : Int) (line column : Nat)
    (rest : List Char) : Except Failure (Number × Cursor) :=
  let c := skipDigits line column rest
  match c.rest with
  | 'e' :: tail => scanExponent negative significand exponent c.line c.column tail
  | 'E' :: tail => scanExponent negative significand exponent c.line c.column tail
  | _ => finishFloat negative significand exponent c

/-- The digits of a fraction; `count` digits have been taken into the significand. -/
def scanFraction (negative : Bool) (significand : Nat) (before : Int) (count : Nat)
    (line column : Nat) : List Char → Except Failure (Number × Cursor)
  | c :: rest =>
    match digitOf c with
    | some d =>
      if overflows significand d wordMax then
        scanAfterOverflow negative significand (before - count) line column (c :: rest)
      else scanFraction negative (significand * 10 + d) before (count + 1) line (column + 1) rest
    | none =>
      if count == 0 then .error ⟨.invalidNumber, oneByteAfter line column c⟩
      else if c == 'e' || c == 'E' then
        scanExponent negative significand (before - count) line column rest
      else finishFloat negative significand (before - count) ⟨c :: rest, line, column⟩
  | [] =>
    if count == 0 then .error ⟨.eofWhileParsingValue, ⟨line, column⟩⟩
    else finishFloat negative significand (before - count) ⟨[], line, column⟩

/-- The end of a number after its integer digits. -/
def scanNumberTail (negative : Bool) (significand : Nat) (exponent : Int) (line column : Nat)
    (rest : List Char) : Except Failure (Number × Cursor) :=
  match rest with
  | '.' :: tail => scanFraction negative significand exponent 0 line (column + 1) tail
  | 'e' :: tail => scanExponent negative significand exponent line column tail
  | 'E' :: tail => scanExponent negative significand exponent line column tail
  | _ =>
    let after : Cursor := ⟨rest, line, column⟩
    if exponent != 0 then finishFloat negative significand exponent after
    else if !negative then .ok (.int significand, after)
    else if significand == 0 then .ok (.float (-0.0), after)
    else if significand ≤ 9223372036854775808 then .ok (.int (-(significand : Int)), after)
    else .ok (.float (-(significand.toUInt64.toFloat)), after)

/-- Integer digits beyond a 64-bit word: each raises the exponent. -/
def scanLongInteger (negative : Bool) (significand : Nat) (extra : Nat) (line column : Nat) :
    List Char → Except Failure (Number × Cursor)
  | c :: rest =>
    if c.isDigit then scanLongInteger negative significand (extra + 1) line (column + 1) rest
    else
      match c with
      | '.' => scanFraction negative significand extra 0 line (column + 1) rest
      | 'e' => scanExponent negative significand extra line column rest
      | 'E' => scanExponent negative significand extra line column rest
      | _ => finishFloat negative significand extra ⟨c :: rest, line, column⟩
  | [] => finishFloat negative significand extra ⟨[], line, column⟩

/-- Integer digits after the first nonzero one. -/
def scanSignificand (negative : Bool) (significand : Nat) (line column : Nat) :
    List Char → Except Failure (Number × Cursor)
  | c :: rest =>
    match digitOf c with
    | some d =>
      if overflows significand d wordMax then
        scanLongInteger negative significand 0 line column (c :: rest)
      else scanSignificand negative (significand * 10 + d) line (column + 1) rest
    | none => scanNumberTail negative significand 0 line column (c :: rest)
  | [] => scanNumberTail negative significand 0 line column []

/-- A number after its optional minus sign. -/
def scanNumber (negative : Bool) (line column : Nat) : List Char → Except Failure (Number × Cursor)
  | [] => .error ⟨.eofWhileParsingValue, ⟨line, column⟩⟩
  | '0' :: rest =>
    match rest with
    | d :: _ =>
      if d.isDigit then .error ⟨.invalidNumber, ⟨line, column + 2⟩⟩
      else scanNumberTail negative 0 0 line (column + 1) rest
    | [] => scanNumberTail negative 0 0 line (column + 1) []
  | c :: rest =>
    match digitOf c with
    | some d => scanSignificand negative d line (column + 1) rest
    | none => .error ⟨.invalidNumber, oneByteAfter line column c⟩

end ContactMigration.Json
