import ContactMigration.Decimal.Nearest

/-!
# What a plain YAML scalar means

How the text of a plain scalar is read as null, a boolean, an integer or a float.
- Null is `~`, `null`, `Null` or `NULL`.
- Booleans are `true` and `false`, each in three spellings.
- Integers are decimal, or hexadecimal, octal or binary with a `0x`, `0o` or `0b` prefix, and
  may carry a sign.
- Floats are decimal with an optional fraction and exponent, or `.inf` and `.nan` in a few
  spellings.

A decimal number with a leading zero, like `012`, is text, not a number.

Integers are read into a fixed width. A number that does not fit is not an integer of that
width.
-/

namespace ContactMigration.Yaml

/-- Whether a scalar spells null. -/
def isNull (s : String) : Bool :=
  s == "null" || s == "Null" || s == "NULL" || s == "~"

/-- The boolean a scalar spells. -/
def boolOf? (s : String) : Option Bool :=
  if s == "true" || s == "True" || s == "TRUE" then some true
  else if s == "false" || s == "False" || s == "FALSE" then some false
  else none

/-- A decimal number written with a leading zero, which is read as text. -/
def digitsButNotNumber (s : String) : Bool :=
  let cs := match s.toList with
    | '-' :: rest => rest
    | '+' :: rest => rest
    | cs => cs
  match cs with
  | '0' :: rest => !rest.isEmpty && rest.all Char.isDigit
  | _ => false

/-- The value of a digit in a radix up to 16. -/
def digitIn (radix : Nat) (c : Char) : Option Nat :=
  let v := if c.isDigit then some (c.toNat - '0'.toNat)
    else if 'a' ≤ c && c ≤ 'z' then some (c.toNat - 'a'.toNat + 10)
    else if 'A' ≤ c && c ≤ 'Z' then some (c.toNat - 'A'.toNat + 10)
    else none
  match v with
  | some d => if d < radix then some d else none
  | none => none

/-- The natural number of a non-empty string of digits in a radix. -/
def natIn (radix : Nat) (cs : List Char) : Option Nat :=
  if cs.isEmpty then none
  else cs.foldlM (fun n c => (fun d => n * radix + d) <$> digitIn radix c) 0

/-- An integer type's range, as the least and greatest value. -/
structure Width where
  least : Int
  greatest : Int

/-- The 64-bit unsigned integers. -/
def Width.u64 : Width := ⟨0, 18446744073709551615⟩
/-- The 64-bit signed integers. -/
def Width.i64 : Width := ⟨-9223372036854775808, 9223372036854775807⟩
/-- The 128-bit unsigned integers. -/
def Width.u128 : Width := ⟨0, 340282366920938463463374607431768211455⟩
/-- The 128-bit signed integers. -/
def Width.i128 : Width :=
  ⟨-170141183460469231731687303715884105728, 170141183460469231731687303715884105727⟩

/-- Reads an integer of a width in a radix: an optional `+`, or `-` for a signed width, then
digits; out of range is no integer. -/
def Width.ofRadix (w : Width) (radix : Nat) (s : String) : Option Int :=
  let (negative, digits) := match s.toList with
    | '+' :: rest => (false, rest)
    | '-' :: rest => if w.least < 0 then (true, rest) else (false, '-' :: rest)
    | cs => (false, cs)
  match natIn radix digits with
  | some n =>
    let v : Int := if negative then -(n : Int) else n
    if w.least ≤ v && v ≤ w.greatest then some v else none
  | none => none

/-- The rest of `s` after `p`, when `s` starts with `p`. -/
def afterPrefix? (p s : String) : Option String :=
  if s.startsWith p then some (String.ofList (s.toList.drop p.length)) else none

/-- Whether a string starts with a sign. -/
def startsSigned (s : String) : Bool :=
  s.startsWith "+" || s.startsWith "-"

/-- A negative radix-prefixed number: `-0x`, `-0o` or `-0b` followed by digits. -/
def negativePrefixed? (w : Width) (s : String) : Option Int :=
  [("-0x", 16), ("-0o", 8), ("-0b", 2)].findSome? fun (p, radix) =>
    (afterPrefix? p s).bind fun rest => w.ofRadix radix ("-" ++ rest)

/-- A non-negative integer of an unsigned width. -/
def unsignedOf? (w : Width) (s : String) : Option Int :=
  let unpositive := (afterPrefix? "+" s).getD s
  let prefixedValue :=
    [("0x", 16), ("0o", 8), ("0b", 2)].findSome? fun (p, radix) =>
      match afterPrefix? p unpositive with
      | some rest => if startsSigned rest then some none else (w.ofRadix radix rest).map some
      | none => none
  match prefixedValue with
  | some v => v
  | none =>
    if startsSigned unpositive || digitsButNotNumber s then none
    else w.ofRadix 10 unpositive

/-- A negative (or any decimal) integer of a signed width. -/
def negativeOf? (w : Width) (s : String) : Option Int :=
  match negativePrefixed? w s with
  | some v => some v
  | none => if digitsButNotNumber s then none else w.ofRadix 10 s

/-- An integer of a signed width, in any of the forms. -/
def signedOf? (w : Width) (s : String) : Option Int :=
  match afterPrefix? "+" s with
  | some rest =>
    if startsSigned rest then none else signedBody w s rest
  | none => signedBody w s s
where
  /-- The forms after an optional `+`. -/
  signedBody (w : Width) (s unpositive : String) : Option Int :=
    let forms : List (Option (Option Int)) :=
      [("0x", 16), ("0o", 8), ("0b", 2)].flatMap fun (p, radix) =>
        [match afterPrefix? p unpositive with
          | some rest => if startsSigned rest then some none else (w.ofRadix radix rest).map some
          | none => none,
         (afterPrefix? ("-" ++ p) s).bind fun rest => (w.ofRadix radix ("-" ++ rest)).map some]
    match forms.findSome? id with
    | some v => v
    | none => if digitsButNotNumber s then none else w.ofRadix 10 unpositive

/-! ## Floats -/

/-- Reads a decimal float: digits with an optional point and fraction, and an optional exponent;
at least one digit before or after the point. -/
def decimalParts? (cs : List Char) : Option (Nat × Int) :=
  let whole := cs.takeWhile Char.isDigit
  let rest := cs.dropWhile Char.isDigit
  let (fraction, rest) := match rest with
    | '.' :: more => (more.takeWhile Char.isDigit, more.dropWhile Char.isDigit)
    | _ => ([], rest)
  if whole.isEmpty && fraction.isEmpty then none
  else
    let exponent : Option Int := match rest with
      | [] => some 0
      | e :: more =>
        if e == 'e' || e == 'E' then
          let (negative, digits) := match more with
            | '+' :: ds => (false, ds)
            | '-' :: ds => (true, ds)
            | ds => (false, ds)
          if digits.isEmpty || !digits.all Char.isDigit then none
          else
            let n : Nat := digits.foldl (fun n d => n * 10 + (d.toNat - '0'.toNat)) 0
            some (if negative then -(n : Int) else n)
        else none
    exponent.map fun e =>
      let digits := (whole ++ fraction).foldl (fun n d => n * 10 + (d.toNat - '0'.toNat)) 0
      (digits, e - fraction.length)

/-- The float nearest a decimal text with an optional sign, or the spellings of infinity and
not-a-number that a general float reader accepts. -/
def floatText? (s : String) : Option Float :=
  let (negative, body) := match s.toList with
    | '-' :: rest => (true, rest)
    | '+' :: rest => (false, rest)
    | cs => (false, cs)
  let lower := String.ofList (body.map Char.toLower)
  if lower == "inf" || lower == "infinity" then
    some (if negative then -(1.0 / 0.0) else 1.0 / 0.0)
  else if lower == "nan" then some (0.0 / 0.0)
  else
    (decimalParts? body).map fun (digits, exponent) =>
      let x := Decimal.nearestOfScientific digits exponent
      if negative then -x else x

/-- A finite float, or one of the YAML spellings of infinity and not-a-number. -/
def floatOf? (s : String) : Option Float :=
  let unpositive := match afterPrefix? "+" s with
    | some rest => if startsSigned rest then none else some rest
    | none => some s
  match unpositive with
  | none => none
  | some u =>
    if u == ".inf" || u == ".Inf" || u == ".INF" then some (1.0 / 0.0)
    else if s == "-.inf" || s == "-.Inf" || s == "-.INF" then some (-(1.0 / 0.0))
    else if s == ".nan" || s == ".NaN" || s == ".NAN" then some (0.0 / 0.0)
    else
      match floatText? u with
      | some f => if f.isNaN || f.isInf then none else some f
      | none => none

end ContactMigration.Yaml
