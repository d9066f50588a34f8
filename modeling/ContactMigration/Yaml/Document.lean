import ContactMigration.Yaml.Node
import ContactMigration.Yaml.Token.Stream

/-!
# Reading the first document of a YAML stream

This module reads the tokens of a stream into the node tree of its first document.

Block collections come as explicit start and end tokens. A block sequence under a mapping key
may also be "indentless": its `-` entries stand at the key's own column. Flow collections use
`[`, `{`, `,` and their closing brackets. A node may carry an anchor and a tag, in either order.
A tag's handle is read against the document's `%TAG` directives and the two defaults, `!` and
`!!` (`tag:yaml.org,2002:`). An alias is replaced by the node its anchor last named. An alias
to an anchor not yet defined is a fault. An alias inside the collection its anchor names stands
for that collection's start: an empty collection of its kind at its place, which is all a
reader of scalars needs to refuse it. A key or value the text leaves out is an empty plain
scalar.

Every fault cuts the tree where it happens. Each function returns what it read up to that
point, so the nodes before the fault survive.
-/

namespace ContactMigration.Yaml

/-- The anchors defined so far, the latest first. -/
abbrev Anchors := List (String × Node)

/-- Part of a document read: the value, the position of the next token and the anchors; or the
value read up to a fault. -/
inductive Built (α : Type) where
  | ok (value : α) (pos : Nat) (anchors : Anchors)
  | cut (value : α) (fault : Fault)

/-- The tokens a document is read from. -/
structure Source where
  tokens : Array Token
  /-- How many tokens may be read before the fault. -/
  limit : Nat
  fault : Fault
  /-- The tag handles and their prefixes. -/
  handles : List (String × String) := []

/-- The fault of a reading that ran out of steps; it cannot happen with the steps given. -/
def exhausted : Fault := ⟨"document too deeply nested", {}, none, 0⟩

/-- The token at a position, or the fault that stops reading there. -/
def Source.peek (src : Source) (pos : Nat) : Except Fault Token :=
  if pos < src.limit then
    match src.tokens[pos]? with
    | some t => .ok t
    | none => .error src.fault
  else .error src.fault

/-- Whether a token is one of the given kinds, compared by constructor. -/
def TokenKind.isAny (k : TokenKind) (kinds : List TokenKind) : Bool :=
  kinds.any fun other => k.ctorIdx == other.ctorIdx

/-- The anchor and tag before a node, with the place the node starts, the place of its tag, and
the position after them. -/
structure Properties where
  anchor : Option String := none
  tag : Option (String × String) := none
  start : Mark
  tagMark : Mark
  pos : Nat

/-- Reads the anchor and tag before a node, in either order. -/
def Source.properties (src : Source) (pos : Nat) (t : Token) : Except Fault (Properties × Token) :=
  match t.kind with
  | .anchor name => do
    let t2 ← src.peek (pos + 1)
    match t2.kind with
    | .tag handle suffix => do
      let t3 ← src.peek (pos + 2)
      pure (⟨some name, some (handle, suffix), t.start, t2.start, pos + 2⟩, t3)
    | _ => pure (⟨some name, none, t.start, t.start, pos + 1⟩, t2)
  | .tag handle suffix => do
    let t2 ← src.peek (pos + 1)
    match t2.kind with
    | .anchor name => do
      let t3 ← src.peek (pos + 2)
      pure (⟨some name, some (handle, suffix), t.start, t.start, pos + 2⟩, t3)
    | _ => pure (⟨none, some (handle, suffix), t.start, t.start, pos + 1⟩, t2)
  | _ => .ok (⟨none, none, t.start, t.start, pos⟩, t)

/-- The full tag of a handle and suffix. -/
def Source.resolveTag (src : Source) (p : Properties) : Except Fault (Option String) :=
  match p.tag with
  | none => .ok none
  | some ("", suffix) => .ok (some suffix)
  | some (handle, suffix) =>
    match src.handles.lookup handle with
    | some pre => .ok (some (pre ++ suffix))
    | none =>
      .error ⟨"found undefined tag handle", p.tagMark, some ("while parsing a node", p.start), 0⟩

/-- Names a node with an anchor. -/
def register (anchor : Option String) (node : Node) (anchors : Anchors) : Anchors :=
  match anchor with
  | some name => (name, node) :: anchors
  | none => anchors

mutual

/-- Reads a node; `block` allows block collections, `indentless` a sequence whose entries stand
at its key's column. -/
def Source.node (src : Source) : Nat → Bool → Bool → Nat → Anchors → Built Node
  | 0, _, _, _, _ => .cut (.broken exhausted) exhausted
  | fuel + 1, block, indentless, pos, anchors =>
    match src.peek pos with
    | .error f => .cut (.broken f) f
    | .ok t =>
      match t.kind with
      | .alias name =>
        match anchors.lookup name with
        | some node => .ok node (pos + 1) anchors
        | none =>
          let f : Fault := ⟨"unknown anchor", t.start, none, 0⟩
          .cut (.broken f) f
      | _ =>
        match src.properties pos t with
        | .error f => .cut (.broken f) f
        | .ok (p, t) =>
          match src.resolveTag p with
          | .error f => .cut (.broken f) f
          | .ok tag =>
            let finish (node : Node) (pos : Nat) (anchors : Anchors) : Built Node :=
              .ok node pos (register p.anchor node anchors)
            -- a collection's anchor names it from its start, so an alias inside it sees its kind
            let openSequence := register p.anchor (.sequence p.start .close) anchors
            let openMapping := register p.anchor (.mapping p.start .close) anchors
            if indentless && t.kind matches .blockEntry then
              match src.indentless fuel p.pos openSequence with
              | .ok items pos anchors => finish (.sequence p.start items) pos anchors
              | .cut items f => .cut (.sequence p.start items) f
            else
              match t.kind with
              | .scalar text style => finish (.scalar text style tag p.start) (p.pos + 1) anchors
              | .flowSequenceStart =>
                match src.flowSequence fuel true (p.pos + 1) openSequence t.start with
                | .ok items pos anchors => finish (.sequence p.start items) pos anchors
                | .cut items f => .cut (.sequence p.start items) f
              | .flowMappingStart =>
                match src.flowMapping fuel true (p.pos + 1) openMapping t.start with
                | .ok entries pos anchors => finish (.mapping p.start entries) pos anchors
                | .cut entries f => .cut (.mapping p.start entries) f
              | .blockSequenceStart =>
                if block then
                  match src.blockSequence fuel (p.pos + 1) openSequence t.start with
                  | .ok items pos anchors => finish (.sequence p.start items) pos anchors
                  | .cut items f => .cut (.sequence p.start items) f
                else src.noContent block p t anchors
              | .blockMappingStart =>
                if block then
                  match src.blockMapping fuel (p.pos + 1) openMapping t.start with
                  | .ok entries pos anchors => finish (.mapping p.start entries) pos anchors
                  | .cut entries f => .cut (.mapping p.start entries) f
                else src.noContent block p t anchors
              | _ => src.noContent block p t anchors

/-- A node position holding no content: an empty scalar when it has properties, else a fault. -/
def Source.noContent (src : Source) (block : Bool) (p : Properties) (t : Token) (anchors : Anchors) :
    Built Node :=
  if p.anchor.isSome || p.tag.isSome then
    match src.resolveTag p with
    | .ok tag =>
      let node := Node.scalar "" .plain tag p.start
      .ok node p.pos (register p.anchor node anchors)
    | .error f => .cut (.broken f) f
  else
    let f : Fault := ⟨"did not find expected node content", t.start,
      some (if block then "while parsing a block node" else "while parsing a flow node", p.start), 0⟩
    .cut (.broken f) f

/-- Reads the entries of a block sequence after its start. -/
def Source.blockSequence (src : Source) : Nat → Nat → Anchors → Mark → Built Items
  | 0, _, _, _ => .cut (.broken exhausted) exhausted
  | fuel + 1, pos, anchors, mark =>
    match src.peek pos with
    | .error f => .cut (.broken f) f
    | .ok t =>
      match t.kind with
      | .blockEntry =>
        match src.peek (pos + 1) with
        | .error f => .cut (.broken f) f
        | .ok t2 =>
          let item : Built Node :=
            if t2.kind.isAny [.blockEntry, .blockEnd] then .ok (Node.empty t.stop) (pos + 1) anchors
            else src.node fuel true false (pos + 1) anchors
          match item with
          | .cut node f => .cut (.cons node (.broken f)) f
          | .ok node pos anchors =>
            match src.blockSequence fuel pos anchors mark with
            | .ok rest pos anchors => .ok (.cons node rest) pos anchors
            | .cut rest f => .cut (.cons node rest) f
      | .blockEnd => .ok .close (pos + 1) anchors
      | _ =>
        let f : Fault := ⟨"did not find expected '-' indicator", t.start,
          some ("while parsing a block collection", mark), 0⟩
        .cut (.broken f) f

/-- Reads the entries of a sequence whose `-` stand at its key's column. -/
def Source.indentless (src : Source) : Nat → Nat → Anchors → Built Items
  | 0, _, _ => .cut (.broken exhausted) exhausted
  | fuel + 1, pos, anchors =>
    match src.peek pos with
    | .error f => .cut (.broken f) f
    | .ok t =>
      match t.kind with
      | .blockEntry =>
        match src.peek (pos + 1) with
        | .error f => .cut (.broken f) f
        | .ok t2 =>
          let item : Built Node :=
            if t2.kind.isAny [.blockEntry, .key, .value, .blockEnd] then
              .ok (Node.empty t.stop) (pos + 1) anchors
            else src.node fuel true false (pos + 1) anchors
          match item with
          | .cut node f => .cut (.cons node (.broken f)) f
          | .ok node pos anchors =>
            match src.indentless fuel pos anchors with
            | .ok rest pos anchors => .ok (.cons node rest) pos anchors
            | .cut rest f => .cut (.cons node rest) f
      | _ => .ok .close pos anchors

/-- Reads the entries of a block mapping after its start. -/
def Source.blockMapping (src : Source) : Nat → Nat → Anchors → Mark → Built Entries
  | 0, _, _, _ => .cut (.broken exhausted) exhausted
  | fuel + 1, pos, anchors, mark =>
    match src.peek pos with
    | .error f => .cut (.broken f) f
    | .ok t =>
      match t.kind with
      | .key =>
        match src.peek (pos + 1) with
        | .error f => .cut (.broken f) f
        | .ok t2 =>
          let aliased := t2.kind matches .alias _
          let key : Built Node :=
            if t2.kind.isAny [.key, .value, .blockEnd] then .ok (Node.empty t.stop) (pos + 1) anchors
            else src.node fuel true true (pos + 1) anchors
          match key with
          | .cut k f => .cut (.cons k aliased (.broken f) (.broken f)) f
          | .ok k pos anchors =>
            match src.blockValue fuel pos anchors with
            | .cut v f => .cut (.cons k aliased v (.broken f)) f
            | .ok v pos anchors =>
              match src.blockMapping fuel pos anchors mark with
              | .ok rest pos anchors => .ok (.cons k aliased v rest) pos anchors
              | .cut rest f => .cut (.cons k aliased v rest) f
      | .blockEnd => .ok .close (pos + 1) anchors
      | _ =>
        let f : Fault := ⟨"did not find expected key", t.start,
          some ("while parsing a block mapping", mark), 0⟩
        .cut (.broken f) f

/-- Reads the value of a block mapping entry; an entry without `:` has an empty value. -/
def Source.blockValue (src : Source) : Nat → Nat → Anchors → Built Node
  | 0, _, _ => .cut (.broken exhausted) exhausted
  | fuel + 1, pos, anchors =>
    match src.peek pos with
    | .error f => .cut (.broken f) f
    | .ok t =>
      match t.kind with
      | .value =>
        match src.peek (pos + 1) with
        | .error f => .cut (.broken f) f
        | .ok t2 =>
          if t2.kind.isAny [.key, .value, .blockEnd] then .ok (Node.empty t.stop) (pos + 1) anchors
          else src.node fuel true true (pos + 1) anchors
      | _ => .ok (Node.empty t.start) pos anchors

/-- Reads the entries of a flow sequence after its `[`; `first` before the first entry. -/
def Source.flowSequence (src : Source) : Nat → Bool → Nat → Anchors → Mark → Built Items
  | 0, _, _, _, _ => .cut (.broken exhausted) exhausted
  | fuel + 1, first, pos, anchors, mark =>
    match src.peek pos with
    | .error f => .cut (.broken f) f
    | .ok t =>
      if t.kind matches .flowSequenceEnd then .ok .close (pos + 1) anchors
      else
        let next : Except Fault (Nat × Token) :=
          if first then .ok (pos, t)
          else if t.kind matches .flowEntry then (src.peek (pos + 1)).map fun t2 => (pos + 1, t2)
          else .error ⟨"did not find expected ',' or ']'", t.start,
            some ("while parsing a flow sequence", mark), 0⟩
        match next with
        | .error f => .cut (.broken f) f
        | .ok (pos, t) =>
          if t.kind matches .flowSequenceEnd then .ok .close (pos + 1) anchors
          else
            let item : Built Node :=
              if t.kind matches .key then src.flowPair fuel (pos + 1) anchors t
              else src.node fuel false false pos anchors
            match item with
            | .cut node f => .cut (.cons node (.broken f)) f
            | .ok node pos anchors =>
              match src.flowSequence fuel false pos anchors mark with
              | .ok rest pos anchors => .ok (.cons node rest) pos anchors
              | .cut rest f => .cut (.cons node rest) f

/-- Reads a single `key: value` pair inside a flow sequence as a one-entry mapping; `keyToken`
is its `?` or implied key token. -/
def Source.flowPair (src : Source) : Nat → Nat → Anchors → Token → Built Node
  | 0, _, _, _ => .cut (.broken exhausted) exhausted
  | fuel + 1, pos, anchors, keyToken =>
    let wrap (entries : Entries) : Node := .mapping keyToken.start entries
    match src.peek pos with
    | .error f => .cut (wrap (.broken f)) f
    | .ok t =>
      let aliased := t.kind matches .alias _
      let key : Built Node :=
        if t.kind.isAny [.value, .flowEntry, .flowSequenceEnd] then
          .ok (Node.empty keyToken.stop) pos anchors
        else src.node fuel false false pos anchors
      match key with
      | .cut k f => .cut (wrap (.cons k aliased (.broken f) (.broken f))) f
      | .ok k pos anchors =>
        match src.peek pos with
        | .error f => .cut (wrap (.cons k aliased (.broken f) (.broken f))) f
        | .ok t =>
          let value : Built Node :=
            if t.kind matches .value then
              match src.peek (pos + 1) with
              | .error f => .cut (.broken f) f
              | .ok t2 =>
                if t2.kind.isAny [.flowEntry, .flowSequenceEnd] then
                  .ok (Node.empty t.stop) (pos + 1) anchors
                else src.node fuel false false (pos + 1) anchors
            else .ok (Node.empty t.start) pos anchors
          match value with
          | .cut v f => .cut (wrap (.cons k aliased v (.broken f))) f
          | .ok v pos anchors => .ok (wrap (.cons k aliased v .close)) pos anchors

/-- Reads the entries of a flow mapping after its `{`; `first` before the first entry. -/
def Source.flowMapping (src : Source) : Nat → Bool → Nat → Anchors → Mark → Built Entries
  | 0, _, _, _, _ => .cut (.broken exhausted) exhausted
  | fuel + 1, first, pos, anchors, mark =>
    match src.peek pos with
    | .error f => .cut (.broken f) f
    | .ok t =>
      if t.kind matches .flowMappingEnd then .ok .close (pos + 1) anchors
      else
        let next : Except Fault (Nat × Token) :=
          if first then .ok (pos, t)
          else if t.kind matches .flowEntry then (src.peek (pos + 1)).map fun t2 => (pos + 1, t2)
          else .error ⟨"did not find expected ',' or '\x7d'", t.start,
            some ("while parsing a flow mapping", mark), 0⟩
        match next with
        | .error f => .cut (.broken f) f
        | .ok (pos, t) =>
          if t.kind matches .flowMappingEnd then .ok .close (pos + 1) anchors
          else
            let aliased := if t.kind matches .key then
                (src.peek (pos + 1)).toOption.any (·.kind matches .alias _)
              else t.kind matches .alias _
            let pair : Built (Node × Node) :=
              if t.kind matches .key then
                match src.peek (pos + 1) with
                | .error f => .cut (.broken f, .broken f) f
                | .ok t2 =>
                  let key : Built Node :=
                    if t2.kind.isAny [.value, .flowEntry, .flowMappingEnd] then
                      .ok (Node.empty t2.start) (pos + 1) anchors
                    else src.node fuel false false (pos + 1) anchors
                  match key with
                  | .cut k f => .cut (k, .broken f) f
                  | .ok k pos anchors =>
                    match src.flowValue fuel pos anchors with
                    | .ok v pos anchors => .ok (k, v) pos anchors
                    | .cut v f => .cut (k, v) f
              else
                match src.node fuel false false pos anchors with
                | .cut k f => .cut (k, .broken f) f
                | .ok k pos anchors =>
                  match src.peek pos with
                  | .error f => .cut (k, .broken f) f
                  | .ok t2 => .ok (k, Node.empty t2.start) pos anchors
            match pair with
            | .cut (k, v) f => .cut (.cons k aliased v (.broken f)) f
            | .ok (k, v) pos anchors =>
              match src.flowMapping fuel false pos anchors mark with
              | .ok rest pos anchors => .ok (.cons k aliased v rest) pos anchors
              | .cut rest f => .cut (.cons k aliased v rest) f

/-- Reads the value of a flow mapping entry after its key. -/
def Source.flowValue (src : Source) : Nat → Nat → Anchors → Built Node
  | 0, _, _ => .cut (.broken exhausted) exhausted
  | fuel + 1, pos, anchors =>
    match src.peek pos with
    | .error f => .cut (.broken f) f
    | .ok t =>
      if t.kind matches .value then
        match src.peek (pos + 1) with
        | .error f => .cut (.broken f) f
        | .ok t2 =>
          if t2.kind.isAny [.flowEntry, .flowMappingEnd] then .ok (Node.empty t2.start) (pos + 1) anchors
          else src.node fuel false false (pos + 1) anchors
      else .ok (Node.empty t.start) pos anchors

end

/-- The default tag handles. -/
def defaultHandles : List (String × String) :=
  [("!", "!"), ("!!", "tag:yaml.org,2002:")]

/-- Reads the directives before an explicit document: the tag handles they define, and the
position after them. -/
def Source.directives (src : Source) : Nat → Nat → Bool → List (String × String) →
    Except Fault (List (String × String) × Nat)
  | 0, pos, _, handles => .ok (handles, pos)
  | fuel + 1, pos, seenVersion, handles => do
    let t ← src.peek pos
    match t.kind with
    | .versionDirective major minor =>
      if seenVersion then .error ⟨"found duplicate %YAML directive", t.start, none, 0⟩
      else if major != 1 || (minor != 1 && minor != 2) then
        .error ⟨"found incompatible YAML document", t.start, none, 0⟩
      else src.directives fuel (pos + 1) true handles
    | .tagDirective handle pre =>
      if (handles.lookup handle).isSome then
        .error ⟨"found duplicate %TAG directive", t.start, none, 0⟩
      else src.directives fuel (pos + 1) seenVersion (handles ++ [(handle, pre)])
    | _ => .ok (handles, pos)

/-- Whether anything but the end of the stream follows, skipping document end markers. -/
def Source.moreAfter (src : Source) : Nat → Nat → Bool
  | 0, _ => true
  | fuel + 1, pos =>
    match src.peek pos with
    | .error _ => true
    | .ok t =>
      match t.kind with
      | .documentEnd => src.moreAfter fuel (pos + 1)
      | .streamEnd => false
      | _ => true

/-- The first fault in a node, if reading stopped inside it. -/
def Built.fault? {α : Type} : Built α → Option Fault
  | .ok _ _ _ => none
  | .cut _ f => some f

/-- Reads the first document of a YAML text. -/
def Document.read (text : String) : Document :=
  let scanned := Tokens.scan text
  let src : Source := match scanned.fault with
    | some (f, n) => ⟨scanned.tokens, n, f, []⟩
    | none => ⟨scanned.tokens, scanned.tokens.size, exhausted, []⟩
  let fuel := 2 * scanned.tokens.size + 4
  let broken (f : Fault) : Document := ⟨.broken f, some f, true⟩
  match src.peek 0 with
  | .error f => broken f
  | .ok _ =>
    match src.peek 1 with
    | .error f => broken f
    | .ok t =>
      let body : Except Fault (Source × Built Node) :=
        if t.kind.isAny [.versionDirective 0 0, .tagDirective "" "", .documentStart, .streamEnd] then
          if t.kind matches .streamEnd then .ok (src, .ok (.void t.start) 1 [])
          else do
            let (handles, pos) ← src.directives fuel 1 false []
            let handles := handles ++ defaultHandles.filter fun (h, _) => (handles.lookup h).isNone
            let src := { src with handles }
            let t ← src.peek pos
            if !(t.kind matches .documentStart) then
              .error ⟨"did not find expected <document start>", t.start, none, 0⟩
            else
              let t2 ← src.peek (pos + 1)
              if t2.kind.isAny [.versionDirective 0 0, .tagDirective "" "", .documentStart,
                  .documentEnd, .streamEnd] then
                .ok (src, .ok (Node.empty t2.start) (pos + 1) [])
              else .ok (src, src.node fuel true false (pos + 1) [])
        else
          let src := { src with handles := defaultHandles }
          .ok (src, src.node fuel true false 1 [])
      match body with
      | .error f => broken f
      | .ok (_, .cut root f) => ⟨root, some f, true⟩
      | .ok (src, .ok root pos _) =>
        if root matches .void _ then ⟨root, none, false⟩
        else
          match src.peek pos with
          | .error f => ⟨root, some f, true⟩
          | .ok t =>
            let pos := if t.kind matches .documentEnd then pos + 1 else pos
            ⟨root, none, src.moreAfter fuel pos⟩

end ContactMigration.Yaml
