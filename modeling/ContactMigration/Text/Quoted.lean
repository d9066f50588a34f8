import ContactMigration.Text.Escapes

/-!
Quoted text as diagnostics show it.

A string is written between double quotes with a backslash before a quote or a backslash,
`\t`, `\r`, `\n` and `\0` for those characters, and `\u{hex}` (lower-case hex, no leading
zeros) for the other characters that are not printed as they are (see `needsEscape`). Every
other character stands for itself.
-/

namespace ContactMigration.Text

/-- The lower-case hex digits of `n`, without leading zeros. -/
def hexDigits (n : Nat) : String :=
  String.ofList (Nat.toDigits 16 n)

/-- The written form of one character inside quoted diagnostics. -/
def quotedChar (c : Char) : String :=
  if c == '"' then "\\\""
  else if c == '\\' then "\\\\"
  else if c == '\t' then "\\t"
  else if c == '\r' then "\\r"
  else if c == '\n' then "\\n"
  else if c.toNat == 0 then "\\0"
  else if needsEscape c then "\\u\x7b" ++ hexDigits c.toNat ++ "\x7d"
  else String.singleton c

/-- A string quoted as diagnostics show it. -/
def quoted (s : String) : String :=
  "\"" ++ String.join (s.toList.map quotedChar) ++ "\""

end ContactMigration.Text
