import ContactMigration.Json.Value

/-!
Located documents: a JSON text read as far as it is well formed.

A `Doc` records each value with the places that error messages cite: a scalar the place just
after it, an array or object the place of its opening bracket, an object member the place after
its key (and the blanks that follow), and a closed object the place after its closing brace.
Reading stops at the first fault; the fault then stands at the end of every part that it cut
short, so a decoder that walks the document in text order meets it exactly where the text broke.

A value that did not come from text (`Doc.ofJson`) carries no places; its object members are
sorted by key, the last of equal keys winning, as in a map.
-/

namespace ContactMigration.Json

/-- A place in a text: the line, counted from 1, and the column, counted in bytes from the
start of the line. -/
structure Pos where
  line : Nat
  column : Nat
  deriving Repr, DecidableEq, Inhabited

/-- What is wrong with the syntax of a JSON text. -/
inductive Fault where
  | eofWhileParsingList
  | eofWhileParsingObject
  | eofWhileParsingString
  | eofWhileParsingValue
  | expectedColon
  | expectedListCommaOrEnd
  | expectedObjectCommaOrEnd
  | expectedSomeIdent
  | expectedSomeValue
  | invalidEscape
  | invalidNumber
  | numberOutOfRange
  | controlCharacterWhileParsingString
  | keyMustBeAString
  | loneLeadingSurrogateInHexEscape
  | trailingComma
  | trailingCharacters
  | unexpectedEndOfHexEscape
  | recursionLimitExceeded
  deriving Repr, DecidableEq, Inhabited

/-- The message of a syntax fault. -/
def Fault.message : Fault → String
  | .eofWhileParsingList => "EOF while parsing a list"
  | .eofWhileParsingObject => "EOF while parsing an object"
  | .eofWhileParsingString => "EOF while parsing a string"
  | .eofWhileParsingValue => "EOF while parsing a value"
  | .expectedColon => "expected `:`"
  | .expectedListCommaOrEnd => "expected `,` or `]`"
  | .expectedObjectCommaOrEnd => "expected `,` or `\x7d`"
  | .expectedSomeIdent => "expected ident"
  | .expectedSomeValue => "expected value"
  | .invalidEscape => "invalid escape"
  | .invalidNumber => "invalid number"
  | .numberOutOfRange => "number out of range"
  | .controlCharacterWhileParsingString =>
    "control character (\\u0000-\\u001F) found while parsing a string"
  | .keyMustBeAString => "key must be a string"
  | .loneLeadingSurrogateInHexEscape => "lone leading surrogate in hex escape"
  | .trailingComma => "trailing comma"
  | .trailingCharacters => "trailing characters"
  | .unexpectedEndOfHexEscape => "unexpected end of hex escape"
  | .recursionLimitExceeded => "recursion limit exceeded"

/-- A syntax fault at its place. -/
structure Failure where
  fault : Fault
  place : Pos
  deriving Repr, DecidableEq, Inhabited

/-- The text of a place as error messages end with it. -/
def Pos.suffix (p : Pos) : String :=
  " at line " ++ toString p.line ++ " column " ++ toString p.column

/-- A syntax fault as a message with its place. -/
def Failure.message (f : Failure) : String :=
  f.fault.message ++ f.place.suffix

mutual

/-- A JSON value as far as the text holds one. -/
inductive Doc where
  | null (stop : Option Pos)
  | bool (value : Bool) (stop : Option Pos)
  | number (value : Number) (stop : Option Pos)
  | string (value : String) (stop : Option Pos)
  | array (start : Option Pos) (items : Items)
  | object (start : Option Pos) (members : Members)
  /-- The text broke where a value should start or inside a scalar. -/
  | broken (fault : Fault) (place : Pos)

/-- The items of an array from some point on. -/
inductive Items where
  | close
  | broken (fault : Fault) (place : Pos)
  | cons (item : Doc) (rest : Items)

/-- The members of an object from some point on. -/
inductive Members where
  /-- The closing brace, with the place after it. -/
  | close (stop : Option Pos)
  | broken (fault : Fault) (place : Pos)
  /-- A member: its key, the place after the key and the blanks after it, and its value. -/
  | cons (key : String) (keyStop : Option Pos) (value : Doc) (rest : Members)

end

instance : Inhabited Doc := ⟨.null none⟩

mutual

/-- The value a complete document holds, or the fault that cut it short. -/
def Doc.toJson : Doc → Except Failure Json
  | .null _ => .ok .null
  | .bool b _ => .ok (.bool b)
  | .number n _ => .ok (.number n)
  | .string s _ => .ok (.string s)
  | .array _ items => return .array (← items.toJson)
  | .object _ members => return .object (← members.toJson)
  | .broken fault place => .error ⟨fault, place⟩

/-- The items as values, or the fault that cut them short. -/
def Items.toJson : Items → Except Failure (List Json)
  | .close => .ok []
  | .broken fault place => .error ⟨fault, place⟩
  | .cons item rest => return (← item.toJson) :: (← rest.toJson)

/-- The members as key and value, or the fault that cut them short. -/
def Members.toJson : Members → Except Failure (List (String × Json))
  | .close _ => .ok []
  | .broken fault place => .error ⟨fault, place⟩
  | .cons key _ value rest => return (key, ← value.toJson) :: (← rest.toJson)

end

/-- The members with one entry per key, the last of equal keys winning, sorted by key. -/
def sortMembers {α : Type} (members : List (String × α)) : List (String × α) :=
  let distinct := members.reverse.foldl
    (fun (kept : List (String × α)) member =>
      if kept.any (fun k => k.1 == member.1) then kept else member :: kept) []
  distinct.mergeSort (fun a b => decide (a.1 ≤ b.1))

/-- Members from a list of key and document. -/
def Members.ofList : List (String × Doc) → Members
  | [] => .close none
  | (key, value) :: rest => .cons key none value (Members.ofList rest)

/-- Items from a list of documents. -/
def Items.ofList : List Doc → Items
  | [] => .close
  | item :: rest => .cons item (Items.ofList rest)

mutual

/-- A value as a document without places, its objects sorted by key. -/
def Doc.ofJson : Json → Doc
  | .null => .null none
  | .bool b => .bool b none
  | .number n => .number n none
  | .string s => .string s none
  | .array items => .array none (Items.ofList (docsOfJson items))
  | .object members => .object none (Members.ofList (sortMembers (membersOfJson members)))

/-- Each item as a document. -/
def docsOfJson : List Json → List Doc
  | [] => []
  | item :: rest => Doc.ofJson item :: docsOfJson rest

/-- Each member's value as a document. -/
def membersOfJson : List (String × Json) → List (String × Doc)
  | [] => []
  | (key, value) :: rest => (key, Doc.ofJson value) :: membersOfJson rest

end

end ContactMigration.Json
