/-!
# YAML tokens

The tokens of a YAML stream, the places they start and stop at, and the faults met while reading
one. A place counts UTF-8 bytes from the start of the text, and lines and columns from 0; a
message shows it from 1. A fault has a problem at a place and may name what was being read
("while scanning a quoted scalar") at the place where that started.
-/

namespace ContactMigration.Yaml

/-- A place in the text. -/
structure Mark where
  index : Nat := 0
  line : Nat := 0
  column : Nat := 0
  deriving DecidableEq, Repr, Inhabited

/-- The text of a place: line and column, both from 1. -/
def Mark.text (m : Mark) : String :=
  "line " ++ toString (m.line + 1) ++ " column " ++ toString (m.column + 1)

/-- Whether a place is the very start of the text, which messages leave out. -/
def Mark.isStart (m : Mark) : Bool :=
  m.line == 0 && m.column == 0

/-- How a scalar is written. -/
inductive Style where
  | plain
  | singleQuoted
  | doubleQuoted
  | literal
  | folded
  deriving DecidableEq, Repr, Inhabited

/-- What a token is. -/
inductive TokenKind where
  | streamStart
  | streamEnd
  | versionDirective (major minor : Nat)
  | tagDirective (handle pre : String)
  | documentStart
  | documentEnd
  | blockSequenceStart
  | blockMappingStart
  | blockEnd
  | flowSequenceStart
  | flowSequenceEnd
  | flowMappingStart
  | flowMappingEnd
  | blockEntry
  | flowEntry
  | key
  | value
  | alias (name : String)
  | anchor (name : String)
  | tag (handle suffix : String)
  | scalar (text : String) (style : Style)
  deriving DecidableEq, Repr, Inhabited

/-- A token with the places it starts and stops at. -/
structure Token where
  kind : TokenKind
  start : Mark
  stop : Mark
  deriving DecidableEq, Repr, Inhabited

/-- A fault met while reading a YAML stream. -/
structure Fault where
  problem : String
  place : Mark
  /-- What was being read, and where it started. -/
  context : Option (String × Mark) := none
  /-- For a fault found before any place is known: the byte offset of the offending character. -/
  offset : Nat := 0
  deriving DecidableEq, Repr, Inhabited

/-- The message of a fault: the problem and its place, then what was being read and where, when
that place differs. -/
def Fault.message (f : Fault) : String :=
  let at_ :=
    if !f.place.isStart then " at " ++ f.place.text
    else if f.offset != 0 then " at position " ++ toString f.offset
    else ""
  let context := match f.context with
    | some (what, mark) =>
      ", " ++ what ++
        (if !mark.isStart && (mark.line != f.place.line || mark.column != f.place.column) then
          " at " ++ mark.text
        else "")
    | none => ""
  f.problem ++ at_ ++ context

/-! ## Character classes -/

/-- A space or a tab. -/
def isBlank (c : Char) : Bool := c == ' ' || c == '\t'

/-- A line break: carriage return, line feed, next line, line or paragraph separator. -/
def isBreak (c : Char) : Bool :=
  c == '\r' || c == '\n' || c == '\x85' || c == '\u2028' || c == '\u2029'

/-- Whether the text at `cs` starts with a blank or a break, or has ended. -/
def blankOrEnd : List Char → Bool
  | [] => true
  | c :: _ => isBlank c || isBreak c

/-- Whether the text at `cs` starts with a break or has ended. -/
def breakOrEnd : List Char → Bool
  | [] => true
  | c :: _ => isBreak c

/-- A character of an anchor or alias name: a letter, a digit, `_` or `-`. -/
def isNameChar (c : Char) : Bool :=
  c.isAlphanum || c == '_' || c == '-'

/-- The value of a hexadecimal digit. -/
def hexValue? (c : Char) : Option Nat :=
  if '0' ≤ c && c ≤ '9' then some (c.toNat - '0'.toNat)
  else if 'a' ≤ c && c ≤ 'f' then some (c.toNat - 'a'.toNat + 10)
  else if 'A' ≤ c && c ≤ 'F' then some (c.toNat - 'A'.toNat + 10)
  else none

/-- A character a YAML text may hold: tab, line breaks and the printable characters. -/
def isPrintable (c : Char) : Bool :=
  let n := c.toNat
  n == 0x09 || n == 0x0A || n == 0x0D || (0x20 ≤ n && n ≤ 0x7E) || n == 0x85 ||
    (0xA0 ≤ n && n ≤ 0xD7FF) || (0xE000 ≤ n && n ≤ 0xFFFD) || (0x10000 ≤ n && n ≤ 0x10FFFF)

/-- Whether the text starts a document marker `---` or `...` followed by a blank, a break or its
end. -/
def isDocumentMarker : List Char → Bool
  | '-' :: '-' :: '-' :: rest => blankOrEnd rest
  | '.' :: '.' :: '.' :: rest => blankOrEnd rest
  | _ => false

end ContactMigration.Yaml
