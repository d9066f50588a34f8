import ContactMigration.Yaml.Token

/-!
# Scanning YAML scalars

A cursor walks the text and keeps its place. This module reads the three kinds of scalar text:
plain, quoted (single or double), and block (literal `|` or folded `>`).

Line breaks inside a scalar are folded the YAML way. A single break between two pieces of text
becomes a space. When there are more breaks, the first is dropped and the rest are kept. A break
that is not a line feed (a line or paragraph separator) is always kept. Carriage returns and next
line characters count as line feeds.

Every loop consumes at least one character per round. It is bounded by the fuel its caller
gives, which is the length of the text.
-/

namespace ContactMigration.Yaml

/-- The rest of the text and the place it starts at. -/
structure Cursor where
  rest : List Char
  mark : Mark
  deriving Inhabited

namespace Cursor

/-- The next character, if any. -/
def peek (c : Cursor) : Option Char := c.rest.head?

/-- Whether the next character is `ch`. -/
def sees (c : Cursor) (ch : Char) : Bool := c.rest.head? == some ch

/-- Whether the character after the next is `ch`. -/
def seesNext (c : Cursor) (ch : Char) : Bool := (c.rest.drop 1).head? == some ch

/-- Steps over one character that is not a line break. -/
def skip (c : Cursor) : Cursor :=
  match c.rest with
  | [] => c
  | ch :: rest =>
    ⟨rest, { c.mark with index := c.mark.index + ch.utf8Size, column := c.mark.column + 1 }⟩

/-- Steps over a line break, a carriage return and line feed pair counting as one; the text of
the break is a line feed, or the separator itself. -/
def readBreak (c : Cursor) : String × Cursor :=
  let nextLine (n : Nat) (rest : List Char) : Cursor :=
    ⟨rest, { index := c.mark.index + n, line := c.mark.line + 1, column := 0 }⟩
  match c.rest with
  | '\r' :: '\n' :: rest => ("\n", nextLine 2 rest)
  | '\r' :: rest => ("\n", nextLine 1 rest)
  | '\n' :: rest => ("\n", nextLine 1 rest)
  | '\x85' :: rest => ("\n", nextLine 2 rest)
  | '\u2028' :: rest => ("\u2028", nextLine 3 rest)
  | '\u2029' :: rest => ("\u2029", nextLine 3 rest)
  | _ => ("", c)

/-- Steps over a line break. -/
def skipBreak (c : Cursor) : Cursor := (c.readBreak).2

/-- Steps over characters up to the next line break or the end. -/
def skipToBreak : Nat → Cursor → Cursor
  | 0, c => c
  | fuel + 1, c => if breakOrEnd c.rest then c else skipToBreak fuel c.skip

/-- Steps over spaces. -/
def skipSpaces : Nat → Cursor → Cursor
  | 0, c => c
  | fuel + 1, c => if c.sees ' ' then skipSpaces fuel c.skip else c

/-- Steps over spaces and tabs. -/
def skipBlanks : Nat → Cursor → Cursor
  | 0, c => c
  | fuel + 1, c =>
    match c.peek with
    | some ch => if isBlank ch then skipBlanks fuel c.skip else c
    | none => c

end Cursor

/-- A scanned scalar: its text, where it stops, and the cursor after it and the blanks and
breaks that follow it. -/
structure ScannedScalar where
  text : String
  stop : Mark
  cursor : Cursor
  /-- Whether a line break was consumed after the text, which lets a simple key follow. -/
  afterBreak : Bool := false
  deriving Inhabited

/-- Folds the breaks between two pieces of text: a single line feed becomes a space, otherwise
the first line feed is dropped and the other breaks kept. -/
def foldBreaks (leading trailing : String) : String :=
  if leading == "\n" then (if trailing.isEmpty then " " else trailing)
  else leading ++ trailing

/-! ## Plain scalars -/

/-- The pieces of a plain scalar being read. -/
structure PlainState where
  text : String := ""
  spaces : String := ""
  leadingBreak : String := ""
  trailingBreaks : String := ""
  afterBreak : Bool := false
  stop : Mark

/-- The characters that end a plain scalar inside a flow collection. -/
def isFlowIndicator (c : Char) : Bool :=
  c == ',' || c == '[' || c == ']' || c == '{' || c == '}'

/-- Reads the characters of one line of a plain scalar, joining the blanks and breaks before
them. -/
def plainLine (flow : Bool) (start : Mark) : Nat → PlainState → Cursor →
    Except Fault (PlainState × Cursor)
  | 0, st, c => .ok (st, c)
  | fuel + 1, st, c =>
    match c.rest with
    | [] => .ok (st, c)
    | ch :: rest =>
      if isBlank ch || isBreak ch then .ok (st, c)
      else if flow && ch == ':' &&
          (match rest.head? with
            | some n => n == ',' || n == '?' || n == '[' || n == ']' || n == '{' || n == '}'
            | none => false) then
        .error ⟨"found unexpected ':'", c.mark, some ("while scanning a plain scalar", start), 0⟩
      else if (ch == ':' && blankOrEnd rest) || (flow && isFlowIndicator ch) then .ok (st, c)
      else
        let st :=
          if st.afterBreak then
            { st with text := st.text ++ foldBreaks st.leadingBreak st.trailingBreaks,
                      leadingBreak := "", trailingBreaks := "", afterBreak := false }
          else if !st.spaces.isEmpty then { st with text := st.text ++ st.spaces, spaces := "" }
          else st
        let c := c.skip
        plainLine flow start fuel { st with text := st.text.push ch, stop := c.mark } c

/-- Consumes the blanks and breaks after a line of a plain scalar. -/
def plainGap (indent : Int) (start : Mark) : Nat → PlainState → Cursor →
    Except Fault (PlainState × Cursor)
  | 0, st, c => .ok (st, c)
  | fuel + 1, st, c =>
    match c.peek with
    | some ch =>
      if isBlank ch then
        if st.afterBreak && (c.mark.column : Int) < indent && ch == '\t' then
          .error ⟨"found a tab character that violates indentation", c.mark,
            some ("while scanning a plain scalar", start), 0⟩
        else if st.afterBreak then plainGap indent start fuel st c.skip
        else plainGap indent start fuel { st with spaces := st.spaces.push ch } c.skip
      else if isBreak ch then
        let (text, c) := c.readBreak
        if st.afterBreak then
          plainGap indent start fuel { st with trailingBreaks := st.trailingBreaks ++ text } c
        else
          plainGap indent start fuel
            { st with spaces := "", leadingBreak := text, afterBreak := true } c
      else .ok (st, c)
    | none => .ok (st, c)

/-- Reads the lines of a plain scalar until an indicator, a comment, a document marker, a line
indented less than `indent` in block context, or the end. -/
def plainLines (flow : Bool) (indent : Int) (start : Mark) (budget : Nat) :
    Nat → PlainState → Cursor → Except Fault (PlainState × Cursor)
  | 0, st, c => .ok (st, c)
  | fuel + 1, st, c =>
    if c.mark.column == 0 && isDocumentMarker c.rest then .ok (st, c)
    else if c.sees '#' then .ok (st, c)
    else do
      let (st, c) ← plainLine flow start budget st c
      match c.peek with
      | some ch =>
        if !(isBlank ch || isBreak ch) then .ok (st, c)
        else
          let (st, c) ← plainGap indent start budget st c
          if !flow && (c.mark.column : Int) < indent then .ok (st, c)
          else plainLines flow indent start budget fuel st c
      | none => .ok (st, c)

/-- Scans a plain scalar; `indent` is the indentation of the enclosing block. -/
def scanPlain (flow : Bool) (indent : Int) (fuel : Nat) (c : Cursor) : Except Fault ScannedScalar := do
  let (st, c') ← plainLines flow (indent + 1) c.mark fuel fuel { stop := c.mark } c
  pure ⟨st.text, st.stop, c', st.afterBreak⟩

/-! ## Quoted scalars -/

/-- The character of a one-letter escape. -/
def escapeChar? : Char → Option Char
  | '0' => some '\x00'
  | 'a' => some '\x07'
  | 'b' => some '\x08'
  | 't' => some '\t'
  | '\t' => some '\t'
  | 'n' => some '\n'
  | 'v' => some '\x0B'
  | 'f' => some '\x0C'
  | 'r' => some '\r'
  | 'e' => some '\x1B'
  | ' ' => some ' '
  | '"' => some '"'
  | '/' => some '/'
  | '\'' => some '\''
  | '\\' => some '\\'
  | 'N' => some '\x85'
  | '_' => some '\xA0'
  | 'L' => some '\u2028'
  | 'P' => some '\u2029'
  | _ => none

/-- The number of hexadecimal digits of a code escape. -/
def codeLength? : Char → Option Nat
  | 'x' => some 2
  | 'u' => some 4
  | 'U' => some 8
  | _ => none

/-- The value of `n` hexadecimal digits. -/
def hexDigits? : Nat → List Char → Option Nat
  | 0, _ => some 0
  | n + 1, c :: rest => do
    let d ← hexValue? c
    let v ← hexDigits? n rest
    pure (d * Nat.pow 16 n + v)
  | _ + 1, [] => none

/-- The result of reading the characters of one line of a quoted scalar. -/
inductive QuotedLine where
  /-- The line ended at a blank, a break, the closing quote or the end of the text. -/
  | atGap
  /-- An escaped line break was consumed. -/
  | escapedBreak

/-- Reads the characters of a quoted scalar up to a blank, a break or the closing quote. -/
def quotedLine (single : Bool) (start : Mark) :
    Nat → String → Cursor → Except Fault (String × QuotedLine × Cursor)
  | 0, text, c => .ok (text, .atGap, c)
  | fuel + 1, text, c =>
    let fault (problem : String) (place : Mark) : Fault :=
      ⟨problem, place, some ("while parsing a quoted scalar", start), 0⟩
    match c.rest with
    | [] => .ok (text, .atGap, c)
    | ch :: rest =>
      if isBlank ch || isBreak ch then .ok (text, .atGap, c)
      else if single && ch == '\'' && rest.head? == some '\'' then
        quotedLine single start fuel (text.push '\'') c.skip.skip
      else if ch == (if single then '\'' else '"') then .ok (text, .atGap, c)
      else if !single && ch == '\\' && (match rest.head? with
          | some n => isBreak n
          | none => false) then
        .ok (text, .escapedBreak, c.skip.skipBreak)
      else if !single && ch == '\\' then
        match rest with
        | e :: more =>
          match escapeChar? e with
          | some out => quotedLine single start fuel (text.push out) c.skip.skip
          | none =>
            match codeLength? e with
            | some n =>
              match hexDigits? n more with
              | some v =>
                if (0xD800 ≤ v && v ≤ 0xDFFF) || v > 0x10FFFF then
                  .error (fault "found invalid Unicode character escape code" c.skip.skip.mark)
                else
                  let c' := (List.range (n + 2)).foldl (fun c _ => c.skip) c
                  quotedLine single start fuel (text.push (Char.ofNat v)) c'
              | none => .error (fault "did not find expected hexadecimal number" c.skip.skip.mark)
            | none => .error (fault "found unknown escape character" c.mark)
        | [] => .error (fault "found unknown escape character" c.mark)
      else quotedLine single start fuel (text.push ch) c.skip

/-- The blanks and breaks between two lines of a quoted scalar. -/
structure QuotedGap where
  spaces : String := ""
  leadingBreak : String := ""
  trailingBreaks : String := ""
  afterBreak : Bool := false

/-- Consumes the blanks and breaks after a line of a quoted scalar. -/
def quotedGap : Nat → QuotedGap → Cursor → QuotedGap × Cursor
  | 0, g, c => (g, c)
  | fuel + 1, g, c =>
    match c.peek with
    | some ch =>
      if isBlank ch then
        if g.afterBreak then quotedGap fuel g c.skip
        else quotedGap fuel { g with spaces := g.spaces.push ch } c.skip
      else if isBreak ch then
        let (text, c) := c.readBreak
        if g.afterBreak then quotedGap fuel { g with trailingBreaks := g.trailingBreaks ++ text } c
        else quotedGap fuel { g with spaces := "", leadingBreak := text, afterBreak := true } c
      else (g, c)
    | none => (g, c)

/-- Reads the lines of a quoted scalar up to its closing quote. -/
def quotedLines (single : Bool) (start : Mark) (budget : Nat) :
    Nat → String → Cursor → Except Fault (String × Cursor)
  | 0, text, c => .ok (text, c)
  | fuel + 1, text, c =>
    let fault (problem : String) : Fault :=
      ⟨problem, c.mark, some ("while scanning a quoted scalar", start), 0⟩
    if c.mark.column == 0 && isDocumentMarker c.rest then
      .error (fault "found unexpected document indicator")
    else if c.rest.isEmpty then .error (fault "found unexpected end of stream")
    else do
      let (text, ended, c) ← quotedLine single start budget text c
      match ended with
      | .escapedBreak =>
        let (g, c) := quotedGap budget { afterBreak := true } c
        quotedLines single start budget fuel (text ++ g.trailingBreaks) c
      | .atGap =>
        if c.sees (if single then '\'' else '"') then .ok (text, c)
        else
          let (g, c) := quotedGap budget {} c
          let text :=
            if g.afterBreak then text ++ foldBreaks g.leadingBreak g.trailingBreaks
            else text ++ g.spaces
          quotedLines single start budget fuel text c

/-- Scans a quoted scalar, the cursor at its opening quote. -/
def scanQuoted (single : Bool) (fuel : Nat) (c : Cursor) : Except Fault ScannedScalar := do
  let start := c.mark
  let (text, c) ← quotedLines single start fuel fuel "" c.skip
  let c := c.skip
  pure ⟨text, c.mark, c, false⟩

/-! ## Block scalars -/

/-- Consumes the empty lines before a line of a block scalar, fixing the indentation from the
first non-empty line when it is not yet known (`indent = 0`). -/
def blockBreaks (start : Mark) (blockIndent : Int) :
    Nat → Nat → Nat → String → Mark → Cursor → Except Fault (Nat × String × Mark × Cursor)
  | 0, indent, _, breaks, stop, c => .ok (indent, breaks, stop, c)
  | fuel + 1, indent, widest, breaks, stop, c =>
    let c := if indent == 0 then Cursor.skipSpaces c.rest.length c
      else (List.range (indent - min indent c.mark.column)).foldl
        (fun c _ => if c.sees ' ' then c.skip else c) c
    let widest := max widest c.mark.column
    if (indent == 0 || c.mark.column < indent) && c.sees '\t' then
      .error ⟨"found a tab character where an indentation space is expected", c.mark,
        some ("while scanning a block scalar", start), 0⟩
    else
      match c.peek with
      | some ch =>
        if isBreak ch then
          let (text, c) := c.readBreak
          blockBreaks start blockIndent fuel indent widest (breaks ++ text) c.mark c
        else .ok (settle indent widest, breaks, stop, c)
      | none => .ok (settle indent widest, breaks, stop, c)
where
  /-- The indentation: the given one, or the widest seen, at least one more than the block's. -/
  settle (indent widest : Nat) : Nat :=
    if indent != 0 then indent
    else max (max widest (blockIndent + 1).toNat) 1

/-- The state of a block scalar being read. -/
structure BlockState where
  text : String := ""
  leadingBreak : String := ""
  trailingBreaks : String := ""
  leadingBlank : Bool := false

/-- Reads the lines of a block scalar while they are indented by `indent`. -/
def blockLines (literal : Bool) (start : Mark) (blockIndent : Int) (indent : Nat) (budget : Nat) :
    Nat → BlockState → Mark → Cursor → Except Fault (BlockState × Mark × Cursor)
  | 0, st, stop, c => .ok (st, stop, c)
  | fuel + 1, st, stop, c =>
    if c.mark.column != indent || c.rest.isEmpty then .ok (st, stop, c)
    else
      let trailingBlank := match c.peek with
        | some ch => isBlank ch
        | none => false
      let st :=
        if !literal && st.leadingBreak == "\n" && !st.leadingBlank && !trailingBlank then
          { st with
            text := st.text ++ (if st.trailingBreaks.isEmpty then " " else ""),
            leadingBreak := "" }
        else { st with text := st.text ++ st.leadingBreak, leadingBreak := "" }
      let st := { st with text := st.text ++ st.trailingBreaks, trailingBreaks := "" }
      let leadingBlank := match c.peek with
        | some ch => isBlank ch
        | none => false
      let line := c.rest.takeWhile (fun ch => !isBreak ch)
      let c := (List.range line.length).foldl (fun c _ => c.skip) c
      let (brk, c) := c.readBreak
      let st := { st with text := st.text ++ String.ofList line, leadingBreak := brk,
                          leadingBlank }
      match blockBreaks start blockIndent budget indent 0 "" stop c with
      | .error e => .error e
      | .ok (_, breaks, stop, c) =>
        blockLines literal start blockIndent indent budget fuel
          { st with trailingBreaks := breaks } stop c

/-- Scans a block scalar, the cursor at its `|` or `>`; `blockIndent` is the indentation of the
enclosing block. -/
def scanBlock (literal : Bool) (blockIndent : Int) (fuel : Nat) (c0 : Cursor) :
    Except Fault ScannedScalar := do
  let start := c0.mark
  let fault (problem : String) (c : Cursor) : Fault :=
    ⟨problem, c.mark, some ("while scanning a block scalar", start), 0⟩
  let c := c0.skip
  let digit (c : Cursor) : Option Nat := match c.peek with
    | some ch => if ch.isDigit then some (ch.toNat - '0'.toNat) else none
    | none => none
  let chompOf (c : Cursor) : Option Int :=
    if c.sees '+' then some 1 else if c.sees '-' then some (-1) else none
  let (chomping, increment, c) ←
    match chompOf c with
    | some ch =>
      let c := c.skip
      match digit c with
      | some 0 => Except.error (fault "found an indentation indicator equal to 0" c)
      | some d => pure (ch, d, c.skip)
      | none => pure (ch, 0, c)
    | none =>
      match digit c with
      | some 0 => Except.error (fault "found an indentation indicator equal to 0" c)
      | some d =>
        let c := c.skip
        match chompOf c with
        | some ch => pure (ch, d, c.skip)
        | none => pure (0, d, c)
      | none => pure (0, 0, c)
  let c := Cursor.skipBlanks fuel c
  let c := if c.sees '#' then Cursor.skipToBreak fuel c else c
  if !breakOrEnd c.rest then
    Except.error (fault "did not find expected comment or line break" c)
  else
    let c := c.skipBreak
    let indent : Nat :=
      if increment != 0 then
        (if blockIndent ≥ 0 then (blockIndent + increment).toNat else increment)
      else 0
    let (indent, breaks, stop, c) ← blockBreaks start blockIndent fuel indent 0 "" c.mark c
    let (st, stop, c) ← blockLines literal start blockIndent indent fuel fuel
      { trailingBreaks := breaks } stop c
    let text := st.text ++ (if chomping != -1 then st.leadingBreak else "") ++
      (if chomping == 1 then st.trailingBreaks else "")
    pure ⟨text, stop, c, true⟩

end ContactMigration.Yaml
