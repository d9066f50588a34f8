import ContactMigration.Yaml.Token.Scalar

/-!
# The token stream of a YAML text

The scanner turns the text into tokens, one at a time, keeping track of:
- the flow level, which is how many `[` and `{` are open;
- the stack of block indentations;
- whether a simple key may start at the current place.

Block structure is implied by indentation. So the scanner adds tokens the text does not spell:
- a block sequence or mapping starts when a `-`, `?` or `:` stands further right than the
  current block;
- blocks end when a line starts further left.

A simple key (`key: value`) is known to be a key only when its `:` is found. So the scanner
notes where a possible simple key starts, the token number and the place. When the `:` comes,
it inserts the key token, and perhaps a mapping start, at that number. A possible key that runs
past its line, or more than 1024 bytes, stops being possible. If that key was required,
because it stood at the block's own indentation, this is a fault.

Scanning is lazy. A reader sees a token only once nothing pending can still change what comes
before it. So when scanning fails, the stream records how many tokens were settled before the
failing step.
-/

namespace ContactMigration.Yaml

/-- A place where a simple key may start. -/
structure SimpleKey where
  possible : Bool := false
  required : Bool := false
  tokenNumber : Nat := 0
  mark : Mark := {}
  deriving Inhabited

/-- The scanner's state. -/
structure Scanner where
  cursor : Cursor
  tokens : Array Token := #[]
  flowLevel : Nat := 0
  indent : Int := -1
  indents : List Int := []
  simpleKeyAllowed : Bool := false
  /-- One entry per flow level, the innermost first. -/
  simpleKeys : List SimpleKey := [{}]
  started : Bool := false
  finished : Bool := false
  /-- A bound on every loop: the length of the text. -/
  budget : Nat
  deriving Inhabited

/-- A scanning step: the new state, or the fault that stops scanning. -/
abbrev ScanStep := Except Fault Scanner

namespace Scanner

/-- The current place. -/
def mark (s : Scanner) : Mark := s.cursor.mark

/-- Appends a token. -/
def emit (s : Scanner) (kind : TokenKind) (start stop : Mark) : Scanner :=
  { s with tokens := s.tokens.push ⟨kind, start, stop⟩ }

/-- The simple key of the current flow level. -/
def topKey (s : Scanner) : SimpleKey := s.simpleKeys.headD {}

/-- Replaces the simple key of the current flow level. -/
def setTopKey (s : Scanner) (k : SimpleKey) : Scanner :=
  { s with simpleKeys := match s.simpleKeys with
    | _ :: rest => k :: rest
    | [] => [k] }

/-- The fault of a required simple key whose `:` was not found. -/
def keyFault (s : Scanner) (k : SimpleKey) : Fault :=
  ⟨"could not find expected ':'", s.mark, some ("while scanning a simple key", k.mark), 0⟩

/-- Drops the possible simple key of the current flow level; a required one is a fault. -/
def removeSimpleKey (s : Scanner) : ScanStep :=
  let k := s.topKey
  if k.possible && k.required then .error (s.keyFault k)
  else .ok (s.setTopKey { k with possible := false })

/-- Notes that a simple key may start here, when one may. -/
def saveSimpleKey (s : Scanner) : ScanStep :=
  if s.simpleKeyAllowed then do
    let required := s.flowLevel == 0 && s.indent == (s.mark.column : Int)
    let s ← s.removeSimpleKey
    pure (s.setTopKey ⟨true, required, s.tokens.size, s.mark⟩)
  else .ok s

/-- Drops possible simple keys that can no longer be keys: those on an earlier line or more
than 1024 bytes back. -/
def staleSimpleKeys (s : Scanner) : ScanStep := do
  let keys ← s.simpleKeys.mapM fun k =>
    if k.possible && (k.mark.line < s.mark.line || k.mark.index + 1024 < s.mark.index) then
      if k.required then .error (s.keyFault k) else .ok { k with possible := false }
    else .ok k
  pure { s with simpleKeys := keys }

/-- Opens a block at `column` when it stands right of the current one, adding its start token at
`number` or at the end. -/
def rollIndent (s : Scanner) (column : Int) (number : Option Nat) (kind : TokenKind)
    (mark : Mark) : Scanner :=
  if s.flowLevel == 0 && s.indent < column then
    let token : Token := ⟨kind, mark, mark⟩
    { s with
      indents := s.indent :: s.indents
      indent := column
      tokens := match number with
        | some n => s.tokens.insertIdxIfInBounds n token
        | none => s.tokens.push token }
  else s

/-- Closes the blocks that stand right of `column`. -/
def unrollIndent (s : Scanner) (column : Int) : Scanner :=
  if s.flowLevel != 0 then s else go s.indents s
where
  /-- Closes blocks while the indentation is right of `column`. -/
  go : List Int → Scanner → Scanner
    | [], s => s
    | outer :: rest, s =>
      if s.indent > column then
        go rest { s.emit .blockEnd s.mark s.mark with indent := outer, indents := rest }
      else s

/-! ## Tokens -/

/-- The start of the stream. -/
def fetchStreamStart (s : Scanner) : Scanner :=
  { s.emit .streamStart s.mark s.mark with
    indent := -1, simpleKeys := [{}], simpleKeyAllowed := true, started := true }

/-- The end of the stream, on a line of its own. -/
def fetchStreamEnd (s : Scanner) : ScanStep := do
  let s := if s.mark.column != 0 then
      { s with cursor := { s.cursor with
        mark := { s.mark with column := 0, line := s.mark.line + 1 } } }
    else s
  let s := s.unrollIndent (-1)
  let s ← s.removeSimpleKey
  pure { s.emit .streamEnd s.mark s.mark with simpleKeyAllowed := false, finished := true }

/-- Steps over one character and emits a token spanning it. -/
def single (s : Scanner) (kind : TokenKind) : Scanner :=
  let start := s.mark
  let s := { s with cursor := s.cursor.skip }
  s.emit kind start s.mark

/-- A document marker `---` or `...`. -/
def fetchDocumentIndicator (s : Scanner) (kind : TokenKind) : ScanStep := do
  let s := s.unrollIndent (-1)
  let s ← s.removeSimpleKey
  let start := s.mark
  let s := { s with simpleKeyAllowed := false, cursor := s.cursor.skip.skip.skip }
  pure (s.emit kind start s.mark)

/-- An opening `[` or `{`. -/
def fetchFlowCollectionStart (s : Scanner) (kind : TokenKind) : ScanStep := do
  let s ← s.saveSimpleKey
  let s := { s with simpleKeys := {} :: s.simpleKeys, flowLevel := s.flowLevel + 1,
                    simpleKeyAllowed := true }
  pure (s.single kind)

/-- A closing `]` or `}`. -/
def fetchFlowCollectionEnd (s : Scanner) (kind : TokenKind) : ScanStep := do
  let s ← s.removeSimpleKey
  let s := if s.flowLevel > 0 then
      { s with flowLevel := s.flowLevel - 1, simpleKeys := s.simpleKeys.drop 1 }
    else s
  pure ({ s with simpleKeyAllowed := false }.single kind)

/-- A `,` between flow entries. -/
def fetchFlowEntry (s : Scanner) : ScanStep := do
  let s ← s.removeSimpleKey
  pure ({ s with simpleKeyAllowed := true }.single .flowEntry)

/-- A `-` starting a block sequence entry. -/
def fetchBlockEntry (s : Scanner) : ScanStep := do
  let s ←
    if s.flowLevel == 0 then
      if !s.simpleKeyAllowed then
        Except.error ⟨"block sequence entries are not allowed in this context", s.mark, none, 0⟩
      else pure (s.rollIndent s.mark.column none .blockSequenceStart s.mark)
    else pure s
  let s ← s.removeSimpleKey
  pure ({ s with simpleKeyAllowed := true }.single .blockEntry)

/-- A `?` starting a complex key. -/
def fetchKey (s : Scanner) : ScanStep := do
  let s ←
    if s.flowLevel == 0 then
      if !s.simpleKeyAllowed then
        Except.error ⟨"mapping keys are not allowed in this context", s.mark, none, 0⟩
      else pure (s.rollIndent s.mark.column none .blockMappingStart s.mark)
    else pure s
  let s ← s.removeSimpleKey
  pure ({ s with simpleKeyAllowed := s.flowLevel == 0 }.single .key)

/-- A `:` ending a key: a possible simple key becomes one, its key token inserted where it
started. -/
def fetchValue (s : Scanner) : ScanStep := do
  let k := s.topKey
  let s ←
    if k.possible then
      let s := { s with tokens := s.tokens.insertIdxIfInBounds k.tokenNumber ⟨.key, k.mark, k.mark⟩ }
      let s := s.rollIndent k.mark.column (some k.tokenNumber) .blockMappingStart k.mark
      pure { s.setTopKey { k with possible := false } with simpleKeyAllowed := false }
    else if s.flowLevel == 0 then
      if !s.simpleKeyAllowed then
        Except.error ⟨"mapping values are not allowed in this context", s.mark, none, 0⟩
      else
        let s := s.rollIndent s.mark.column none .blockMappingStart s.mark
        pure { s with simpleKeyAllowed := true }
    else pure { s with simpleKeyAllowed := false }
  pure (s.single .value)

/-- An anchor `&name` or alias `*name`. -/
def fetchAnchor (s : Scanner) (isAlias : Bool) : ScanStep := do
  let s ← s.saveSimpleKey
  let s := { s with simpleKeyAllowed := false }
  let start := s.mark
  let name := (s.cursor.rest.drop 1).takeWhile isNameChar
  let cursor := (List.range (name.length + 1)).foldl (fun c _ => c.skip) s.cursor
  let after := cursor.rest.head?
  let ends := blankOrEnd cursor.rest || (match after with
    | some ch => ch == '?' || ch == ':' || ch == ',' || ch == ']' || ch == '}' || ch == '%' ||
      ch == '@' || ch == '`'
    | none => true)
  if name.isEmpty || !ends then
    .error ⟨"did not find expected alphabetic or numeric character", cursor.mark,
      some (if isAlias then "while scanning an alias" else "while scanning an anchor", start), 0⟩
  else
    let s := { s with cursor }
    let text := String.ofList name
    pure (s.emit (if isAlias then .alias text else .anchor text) start s.mark)

/-! ## Tags -/

/-- Whether a character may stand in a tag's URI; `verbatim` admits flow indicators too. -/
def isUriChar (verbatim : Bool) (c : Char) : Bool :=
  isNameChar c || ";/?:@&=+$.%!~*'()".toList.contains c ||
    (verbatim && (c == ',' || c == '[' || c == ']'))

/-- The number of bytes of a UTF-8 sequence from its first byte. -/
def utf8Width (b : Nat) : Nat :=
  if b &&& 0x80 == 0 then 1
  else if b &&& 0xE0 == 0xC0 then 2
  else if b &&& 0xF0 == 0xE0 then 3
  else if b &&& 0xF8 == 0xF0 then 4
  else 0

/-- Reads `%XX` escapes making up one UTF-8 character. A faulty octet is reported at its `%`. -/
def uriEscapes (context : String) (start : Mark) (c : Cursor) : Except Fault (Char × Cursor) :=
  let fault (problem : String) (c : Cursor) : Fault := ⟨problem, c.mark, some (context, start), 0⟩
  let octet (c : Cursor) : Except Fault (Nat × Cursor) :=
    match c.rest with
    | '%' :: h :: l :: _ =>
      match hexValue? h, hexValue? l with
      | some a, some b => .ok (a * 16 + b, c.skip.skip.skip)
      | _, _ => .error (fault "did not find URI escaped octet" c)
    | _ => .error (fault "did not find URI escaped octet" c)
  do
    let (first, after) ← octet c
    let width := utf8Width first
    if width == 0 then .error (fault "found an incorrect leading UTF-8 octet" c)
    else
      let lead := if width == 1 then first else first &&& (0xFF >>> (width + 1))
      let (value, c) ← (List.range (width - 1)).foldlM (fun (acc : Nat × Cursor) _ => do
        let (b, c) ← octet acc.2
        if b &&& 0xC0 != 0x80 then .error (fault "found an incorrect trailing UTF-8 octet" acc.2)
        else pure (acc.1 * 64 + (b &&& 0x3F), c)) (lead, after)
      pure (Char.ofNat value, c)

/-- Reads the URI part of a tag, after the given `head`; `verbatim` for a `!<...>` tag. -/
def tagUri (verbatim directive : Bool) (head : String) (start : Mark) (budget : Nat) (c : Cursor) :
    Except Fault (String × Cursor) :=
  let context := if directive then "while parsing a %TAG directive" else "while parsing a tag"
  let rec go : Nat → String → Nat → Cursor → Except Fault (String × Nat × Cursor)
    | 0, text, n, c => .ok (text, n, c)
    | fuel + 1, text, n, c =>
      match c.peek with
      | some ch =>
        if isUriChar verbatim ch then
          if ch == '%' then do
            let (decoded, c) ← uriEscapes context start c
            go fuel (text.push decoded) (n + 1) c
          else go fuel (text.push ch) (n + 1) c.skip
        else .ok (text, n, c)
      | none => .ok (text, n, c)
  do
    let initial := String.ofList (head.toList.drop 1)
    let (text, n, c) ← go budget initial head.length c
    if n == 0 then
      .error ⟨"did not find expected tag URI", c.mark, some (context, start), 0⟩
    else pure (text, c)

/-- Reads a tag handle: `!`, `!!` or `!name!`, or a `!` followed by the start of a URI. -/
def tagHandle (directive : Bool) (start : Mark) (c : Cursor) : Except Fault (String × Cursor) :=
  if !c.sees '!' then
    .error ⟨"did not find expected '!'", c.mark,
      some (if directive then "while scanning a tag directive" else "while scanning a tag", start),
      0⟩
  else
    let c := c.skip
    let name := c.rest.takeWhile isNameChar
    let c := (List.range name.length).foldl (fun c _ => c.skip) c
    let handle := "!" ++ String.ofList name
    if c.sees '!' then .ok (handle ++ "!", c.skip)
    else if directive && handle != "!" then
      .error ⟨"did not find expected '!'", c.mark, some ("while parsing a tag directive", start), 0⟩
    else .ok (handle, c)

/-- A tag token `!<uri>`, `!handle!suffix` or `!suffix`. -/
def fetchTag (s : Scanner) : ScanStep := do
  let s ← s.saveSimpleKey
  let s := { s with simpleKeyAllowed := false }
  let start := s.mark
  let (handle, suffix, c) ←
    if s.cursor.seesNext '<' then do
      let (suffix, c) ← tagUri true false "" start s.budget s.cursor.skip.skip
      if !c.sees '>' then
        Except.error ⟨"did not find the expected '>'", c.mark, some ("while scanning a tag", start),
          0⟩
      else pure ("", suffix, c.skip)
    else do
      let (handle, c) ← tagHandle false start s.cursor
      if handle.length > 1 && handle.back == '!' then
        let (suffix, c) ← tagUri false false "" start s.budget c
        pure (handle, suffix, c)
      else
        let (suffix, c) ← tagUri false false handle start s.budget c
        if suffix.isEmpty then pure ("", "!", c) else pure ("!", suffix, c)
  if !blankOrEnd c.rest && !(s.flowLevel > 0 && c.sees ',') then
    .error ⟨"did not find expected whitespace or line break", c.mark,
      some ("while scanning a tag", start), 0⟩
  else
    let s := { s with cursor := c }
    pure (s.emit (.tag handle suffix) start s.mark)

/-! ## Directives -/

/-- Reads the digits of a version number. -/
def versionNumber (start : Mark) (c : Cursor) : Except Fault (Nat × Cursor) :=
  let digits := c.rest.takeWhile Char.isDigit
  let fault (problem : String) (c : Cursor) : Fault :=
    ⟨problem, c.mark, some ("while scanning a %YAML directive", start), 0⟩
  if digits.length > 9 then
    .error (fault "found extremely long version number" ((List.range 9).foldl (fun c _ => c.skip) c))
  else if digits.isEmpty then .error (fault "did not find expected version number" c)
  else
    .ok (digits.foldl (fun n d => n * 10 + (d.toNat - '0'.toNat)) 0,
      (List.range digits.length).foldl (fun c _ => c.skip) c)

/-- A directive line `%YAML major.minor` or `%TAG handle prefix`. -/
def fetchDirective (s : Scanner) : ScanStep := do
  let s := s.unrollIndent (-1)
  let s ← s.removeSimpleKey
  let s := { s with simpleKeyAllowed := false }
  let start := s.mark
  let fault (problem : String) (c : Cursor) : Fault :=
    ⟨problem, c.mark, some ("while scanning a directive", start), 0⟩
  let c := s.cursor.skip
  let name := c.rest.takeWhile isNameChar
  let c := (List.range name.length).foldl (fun c _ => c.skip) c
  if name.isEmpty then .error (fault "could not find expected directive name" c)
  else if !blankOrEnd c.rest then .error (fault "found unexpected non-alphabetical character" c)
  else
    let (kind, c) ←
      if name == "YAML".toList then do
        let c := Cursor.skipBlanks s.budget c
        let (major, c) ← versionNumber start c
        if !c.sees '.' then
          Except.error ⟨"did not find expected digit or '.' character", c.mark,
            some ("while scanning a %YAML directive", start), 0⟩
        else
          let (minor, c) ← versionNumber start c.skip
          pure (TokenKind.versionDirective major minor, c)
      else if name == "TAG".toList then do
        let c := Cursor.skipBlanks s.budget c
        let (handle, c) ← tagHandle true start c
        if !(match c.peek with | some ch => isBlank ch | none => false) then
          Except.error ⟨"did not find expected whitespace", c.mark,
            some ("while scanning a %TAG directive", start), 0⟩
        else
          let c := Cursor.skipBlanks s.budget c
          let (pre, c) ← tagUri true true "" start s.budget c
          if !blankOrEnd c.rest then
            Except.error ⟨"did not find expected whitespace or line break", c.mark,
              some ("while scanning a %TAG directive", start), 0⟩
          else pure (TokenKind.tagDirective handle pre, c)
      else Except.error (fault "found unknown directive name" c)
    let stop := c.mark
    let c := Cursor.skipBlanks s.budget c
    let c := if c.sees '#' then Cursor.skipToBreak s.budget c else c
    if !breakOrEnd c.rest then .error (fault "did not find expected comment or line break" c)
    else
      let s := { s with cursor := c.skipBreak }
      pure (s.emit kind start stop)

/-! ## Scalars -/

/-- A scalar token from a scanned scalar. -/
def emitScalar (s : Scanner) (start : Mark) (scanned : ScannedScalar) (style : Style) : Scanner :=
  { s.emit (.scalar scanned.text style) start scanned.stop with cursor := scanned.cursor }

/-- A block scalar `|` or `>`. -/
def fetchBlockScalar (s : Scanner) (literal : Bool) : ScanStep := do
  let s ← s.removeSimpleKey
  let s := { s with simpleKeyAllowed := true }
  let scanned ← scanBlock literal s.indent s.budget s.cursor
  pure (s.emitScalar s.mark scanned (if literal then .literal else .folded))

/-- A quoted scalar. -/
def fetchFlowScalar (s : Scanner) (single : Bool) : ScanStep := do
  let s ← s.saveSimpleKey
  let s := { s with simpleKeyAllowed := false }
  let scanned ← scanQuoted single s.budget s.cursor
  pure (s.emitScalar s.mark scanned (if single then .singleQuoted else .doubleQuoted))

/-- A plain scalar; a simple key may follow it when it ran onto a new line. -/
def fetchPlainScalar (s : Scanner) : ScanStep := do
  let s ← s.saveSimpleKey
  let s := { s with simpleKeyAllowed := false }
  let scanned ← scanPlain (s.flowLevel > 0) s.indent s.budget s.cursor
  let s := s.emitScalar s.mark scanned .plain
  pure (if scanned.afterBreak then { s with simpleKeyAllowed := true } else s)

/-! ## The next token -/

/-- Steps over blanks, comments and line breaks up to the next token. -/
def skipToToken : Nat → Scanner → Scanner
  | 0, s => s
  | fuel + 1, s =>
    let c := if s.mark.column == 0 && s.cursor.sees '\uFEFF' then s.cursor.skip else s.cursor
    let rec blanks : Nat → Cursor → Cursor
      | 0, c => c
      | n + 1, c =>
        if c.sees ' ' || ((s.flowLevel > 0 || !s.simpleKeyAllowed) && c.sees '\t') then
          blanks n c.skip
        else c
    let c := blanks s.budget c
    let c := if c.sees '#' then Cursor.skipToBreak s.budget c else c
    match c.peek with
    | some ch =>
      if isBreak ch then
        let s := { s with cursor := c.skipBreak }
        skipToToken fuel (if s.flowLevel == 0 then { s with simpleKeyAllowed := true } else s)
      else { s with cursor := c }
    | none => { s with cursor := c }

/-- Whether the text at the cursor can start a plain scalar. -/
def startsPlain (flow : Bool) : List Char → Bool
  | [] => false
  | c :: rest =>
    let indicator := "-?:,[]\x7b\x7d#&*!|>'\"%@`".toList.contains c
    (!(isBlank c || isBreak c) && !indicator) ||
      (c == '-' && !(match rest.head? with | some n => isBlank n | none => false)) ||
      (!flow && (c == '?' || c == ':') && !blankOrEnd rest)

/-- Scans the next token. -/
def fetchNext (s : Scanner) : ScanStep := do
  if !s.started then return s.fetchStreamStart
  let s := skipToToken s.budget s
  let s ← s.staleSimpleKeys
  let s := s.unrollIndent s.mark.column
  let rest := s.cursor.rest
  let column0 := s.mark.column == 0
  let flow := s.flowLevel > 0
  let blankAfter := blankOrEnd (rest.drop 1)
  match rest with
  | [] => s.fetchStreamEnd
  | c :: more =>
    if column0 && c == '%' then s.fetchDirective
    else if column0 && isDocumentMarker rest && c == '-' then s.fetchDocumentIndicator .documentStart
    else if column0 && isDocumentMarker rest && c == '.' then s.fetchDocumentIndicator .documentEnd
    else if c == '[' then s.fetchFlowCollectionStart .flowSequenceStart
    else if c == '{' then s.fetchFlowCollectionStart .flowMappingStart
    else if c == ']' then s.fetchFlowCollectionEnd .flowSequenceEnd
    else if c == '}' then s.fetchFlowCollectionEnd .flowMappingEnd
    else if c == ',' then s.fetchFlowEntry
    else if c == '-' && blankAfter then s.fetchBlockEntry
    else if c == '?' && (flow || blankAfter) then s.fetchKey
    else if c == ':' && (flow || blankAfter) then s.fetchValue
    else if c == '*' then s.fetchAnchor true
    else if c == '&' then s.fetchAnchor false
    else if c == '!' then s.fetchTag
    else if c == '|' && !flow then s.fetchBlockScalar true
    else if c == '>' && !flow then s.fetchBlockScalar false
    else if c == '\'' then s.fetchFlowScalar true
    else if c == '"' then s.fetchFlowScalar false
    else if startsPlain flow (c :: more) then s.fetchPlainScalar
    else
      .error ⟨"found character that cannot start any token", s.mark,
        some ("while scanning for the next token", s.mark), 0⟩

/-- The number of tokens no pending simple key can still change. -/
def settled (s : Scanner) : Nat :=
  s.simpleKeys.foldl (fun n k => if k.possible then min n k.tokenNumber else n) s.tokens.size

end Scanner

/-- The tokens of a text, and the fault that stopped scanning with the number of tokens that
could be read before it. -/
structure Tokens where
  tokens : Array Token
  fault : Option (Fault × Nat)
  deriving Inhabited

/-- Runs the scanner to the end of the stream or to a fault. -/
def Scanner.run : Nat → Scanner → Tokens
  | 0, s => ⟨s.tokens, none⟩
  | fuel + 1, s =>
    if s.finished then ⟨s.tokens, none⟩
    else
      match (if s.started then s.staleSimpleKeys else .ok s) with
      | .error f => ⟨s.tokens, some (f, s.settled)⟩
      | .ok s' =>
        match s'.fetchNext with
        | .ok s'' => Scanner.run fuel s''
        | .error f => ⟨s'.tokens, some (f, s'.settled)⟩

/-- The first character a YAML text may not hold, with its byte offset. -/
def unprintable? (text : String) : Option (Char × Nat) :=
  let rec go : List Char → Nat → Option (Char × Nat)
    | [], _ => none
    | c :: rest, offset => if isPrintable c then go rest (offset + c.utf8Size) else some (c, offset)
  go text.toList 0

/-- The tokens of a YAML text. A byte order mark at the start is not part of the text; a
character that is not printable stops reading before any token. -/
def Tokens.scan (text : String) : Tokens :=
  match unprintable? text with
  | some (_, offset) => ⟨#[], some (⟨"control characters are not allowed", {}, none, offset⟩, 0)⟩
  | none =>
    let chars := match text.toList with
      | '\uFEFF' :: rest => rest
      | cs => cs
    let budget := chars.length + 2
    Scanner.run (4 * budget) { cursor := ⟨chars, {}⟩, budget }

end ContactMigration.Yaml
