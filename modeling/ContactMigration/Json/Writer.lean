import ContactMigration.Json.Value
import ContactMigration.Decimal.Layout

/-!
Compact JSON text: no blanks, members in the order given.

Inside a string a quote and a backslash are escaped, the control characters below U+0020 are
written `\b`, `\t`, `\n`, `\f`, `\r` or `\u00XX` with lower-case hex digits, and every other
character stands for itself. Floats use the shortest digits in the JSON layout; a non-finite
float is written `null`.
-/

namespace ContactMigration.Json

/-- The lower-case hex digit of `n < 16`. -/
def hexDigit (n : Nat) : Char :=
  Nat.digitChar n

/-- The written form of one character inside a quoted string. -/
def escapeChar (c : Char) : List Char :=
  if c == '"' then ['\\', '"']
  else if c == '\\' then ['\\', '\\']
  else if c == '\n' then ['\\', 'n']
  else if c == '\r' then ['\\', 'r']
  else if c == '\t' then ['\\', 't']
  else if c.toNat == 8 then ['\\', 'b']
  else if c.toNat == 12 then ['\\', 'f']
  else if c.toNat < 0x20 then
    ['\\', 'u', '0', '0', hexDigit (c.toNat / 16), hexDigit (c.toNat % 16)]
  else [c]

/-- A string as a quoted JSON string. -/
def quote (s : String) : String :=
  String.ofList ('"' :: (s.toList.flatMap escapeChar ++ ['"']))

/-- A number as JSON text. -/
def Number.render : Number → String
  | .int n => toString n
  | .float f =>
    if f.isNaN || f.isInf then "null" else Decimal.Layout.json.render f

mutual

/-- A value as compact JSON text. -/
def render : Json → String
  | .null => "null"
  | .bool true => "true"
  | .bool false => "false"
  | .number n => n.render
  | .string s => quote s
  | .array items => "[" ++ renderItems items ++ "]"
  | .object members => "\x7b" ++ renderMembers members ++ "\x7d"

/-- Array items separated by commas. -/
def renderItems : List Json → String
  | [] => ""
  | [item] => render item
  | item :: rest => render item ++ "," ++ renderItems rest

/-- Object members separated by commas. -/
def renderMembers : List (String × Json) → String
  | [] => ""
  | [(key, value)] => quote key ++ ":" ++ render value
  | (key, value) :: rest => quote key ++ ":" ++ render value ++ "," ++ renderMembers rest

end

end ContactMigration.Json
