/-!
Blank characters: the characters with the Unicode White_Space property.

These are U+0009 to U+000D, U+0020, U+0085, U+00A0, U+1680, U+2000 to U+200A, U+2028, U+2029,
U+202F, U+205F and U+3000. `trimStart` and `trim` drop them from the ends of a text.
-/

namespace ContactMigration.Text

/-- Whether a character has the Unicode White_Space property. -/
def isBlank (c : Char) : Bool :=
  let n := c.toNat
  (0x09 ≤ n && n ≤ 0x0D) || n == 0x20 || n == 0x85 || n == 0xA0 || n == 0x1680 ||
    (0x2000 ≤ n && n ≤ 0x200A) || n == 0x2028 || n == 0x2029 || n == 0x202F ||
    n == 0x205F || n == 0x3000

/-- The characters after the leading blanks. -/
def trimStart (cs : List Char) : List Char :=
  cs.dropWhile isBlank

/-- A text without its leading and trailing blanks. -/
def trim (s : String) : String :=
  String.ofList ((trimStart (trimStart s.toList).reverse).reverse)

end ContactMigration.Text
