import ContactMigration.Json.Scan

/-!
Reading a JSON text into a located document.

`Document.read` reads one value and then checks that only blanks follow it. Arrays and objects
nest at most 127 deep: the 128th opening bracket is `recursion limit exceeded`. The reading
stops at the first fault, which then closes every array and object still open (see `Doc`).
`Json.parse` is the plain reading: the value, or the first fault of the text.
-/

namespace ContactMigration.Json

/-- How reading a part of a document ended: whole, with the cursor after it, or cut short by a
fault that stands at its end. -/
inductive Read (α : Type) where
  | whole (value : α) (after : Cursor)
  | cut (value : α) (failure : Failure)

/-- A value cut short where it should start or inside a scalar. -/
def brokenAt (fault : Fault) (place : Pos) : Read Doc :=
  .cut (.broken fault place) ⟨fault, place⟩

/-- A scalar, or the fault that stopped it. -/
def scalar (result : Except Failure (Doc × Cursor)) : Read Doc :=
  match result with
  | .ok (doc, after) => .whole doc after
  | .error failure => .cut (.broken failure.fault failure.place) failure

mutual

/-- A value, after the blanks before it; `depth` more arrays or objects may still open. -/
def readValue : Nat → Nat → Cursor → Read Doc
  | 0, _, c => brokenAt .eofWhileParsingValue c.here
  | fuel + 1, depth, c0 =>
    let c := c0.skipBlank
    match c.rest with
    | [] => brokenAt .eofWhileParsingValue c.ahead
    | 'n' :: rest =>
      scalar <| (scanWord c.line (c.column + 1) ['u', 'l', 'l'] rest).map
        fun after => (.null (some after.here), after)
    | 't' :: rest =>
      scalar <| (scanWord c.line (c.column + 1) ['r', 'u', 'e'] rest).map
        fun after => (.bool true (some after.here), after)
    | 'f' :: rest =>
      scalar <| (scanWord c.line (c.column + 1) ['a', 'l', 's', 'e'] rest).map
        fun after => (.bool false (some after.here), after)
    | '-' :: rest =>
      scalar <| (scanNumber true c.line (c.column + 1) rest).map
        fun (n, after) => (.number n (some after.here), after)
    | '"' :: rest =>
      scalar <| (scanString c.line (c.column + 1) [] rest).map
        fun (s, after) => (.string s (some after.here), after)
    | '[' :: _ =>
      if depth ≤ 1 then brokenAt .recursionLimitExceeded c.ahead
      else
        match readItems fuel (depth - 1) true c.next with
        | .whole items after => .whole (.array (some c.here) items) after
        | .cut items failure => .cut (.array (some c.here) items) failure
    | '{' :: _ =>
      if depth ≤ 1 then brokenAt .recursionLimitExceeded c.ahead
      else
        match readMembers fuel (depth - 1) true c.next with
        | .whole members after => .whole (.object (some c.here) members) after
        | .cut members failure => .cut (.object (some c.here) members) failure
    | ch :: rest =>
      if ch.isDigit then
        scalar <| (scanNumber false c.line c.column (ch :: rest)).map
          fun (n, after) => (.number n (some after.here), after)
      else brokenAt .expectedSomeValue c.ahead

/-- The items of an array after its opening bracket or after an item. -/
def readItems : Nat → Nat → Bool → Cursor → Read Items
  | 0, _, _, c => .cut (.broken .eofWhileParsingList c.here) ⟨.eofWhileParsingList, c.here⟩
  | fuel + 1, depth, first, c0 =>
    let c := c0.skipBlank
    let cutAt (fault : Fault) (place : Pos) : Read Items := .cut (.broken fault place) ⟨fault, place⟩
    let item (spot : Cursor) : Read Items :=
      match readValue fuel depth spot with
      | .whole doc after =>
        match readItems fuel depth false after with
        | .whole rest after' => .whole (.cons doc rest) after'
        | .cut rest failure => .cut (.cons doc rest) failure
      | .cut doc failure => .cut (.cons doc (.broken failure.fault failure.place)) failure
    match c.rest with
    | [] => cutAt .eofWhileParsingList c.ahead
    | ']' :: _ => .whole .close c.next
    | ',' :: _ =>
      if first then item c
      else
        let c2 := c.next.skipBlank
        match c2.rest with
        | ']' :: _ => cutAt .trailingComma c2.ahead
        | [] => cutAt .eofWhileParsingValue c2.ahead
        | _ => item c2
    | _ => if first then item c else cutAt .expectedListCommaOrEnd c.ahead

/-- The members of an object after its opening brace or after a member. -/
def readMembers : Nat → Nat → Bool → Cursor → Read Members
  | 0, _, _, c => .cut (.broken .eofWhileParsingObject c.here) ⟨.eofWhileParsingObject, c.here⟩
  | fuel + 1, depth, first, c0 =>
    let c := c0.skipBlank
    let cutAt (fault : Fault) (place : Pos) : Read Members :=
      .cut (.broken fault place) ⟨fault, place⟩
    -- a member whose key starts at the quote under `spot`
    let member (spot : Cursor) (afterQuote : List Char) : Read Members :=
      match scanString spot.line (spot.column + 1) [] afterQuote with
      | .error failure => .cut (.broken failure.fault failure.place) failure
      | .ok (key, afterKey) =>
        let k := afterKey.skipBlank
        let keyStop := some k.here
        let stopped (fault : Fault) (place : Pos) : Read Members :=
          .cut (.cons key keyStop (.broken fault place) (.broken fault place)) ⟨fault, place⟩
        match k.rest with
        | ':' :: _ =>
          match readValue fuel depth k.next with
          | .whole value after =>
            match readMembers fuel depth false after with
            | .whole rest after' => .whole (.cons key keyStop value rest) after'
            | .cut rest failure => .cut (.cons key keyStop value rest) failure
          | .cut value failure =>
            .cut (.cons key keyStop value (.broken failure.fault failure.place)) failure
        | [] => stopped .eofWhileParsingObject k.ahead
        | _ => stopped .expectedColon k.ahead
    match c.rest with
    | [] => cutAt .eofWhileParsingObject c.ahead
    | '}' :: _ => .whole (.close (some c.next.here)) c.next
    | ',' :: _ =>
      if first then cutAt .keyMustBeAString c.ahead
      else
        let c2 := c.next.skipBlank
        match c2.rest with
        | '"' :: afterQuote => member c2 afterQuote
        | '}' :: _ => cutAt .trailingComma c2.ahead
        | [] => cutAt .eofWhileParsingValue c2.ahead
        | _ => cutAt .keyMustBeAString c2.ahead
    | '"' :: afterQuote =>
      if first then member c afterQuote else cutAt .expectedObjectCommaOrEnd c.ahead
    | _ => if first then cutAt .keyMustBeAString c.ahead else cutAt .expectedObjectCommaOrEnd c.ahead

end

/-- A JSON text read as a located document: the value, and the fault of any non-blank text after
a complete value. -/
structure Document where
  root : Doc
  trailing : Option Failure

/-- The nesting allowed: 127 arrays or objects inside one another. -/
def depthLimit : Nat := 128

/-- Reads a text into a located document. -/
def Document.read (text : String) : Document :=
  match readValue (4 * (text.length + 1)) depthLimit (Cursor.start text) with
  | .whole root after =>
    let rest := after.skipBlank
    match rest.rest with
    | [] => ⟨root, none⟩
    | _ => ⟨root, some ⟨.trailingCharacters, rest.ahead⟩⟩
  | .cut root _ => ⟨root, none⟩

/-- Reads a text as one JSON value, or gives the first fault of its syntax. -/
def parse (text : String) : Except Failure Json := do
  let document := Document.read text
  let value ← document.root.toJson
  match document.trailing with
  | some failure => .error failure
  | none => return value

end ContactMigration.Json
