import ContactMigration.Shell.Complaint

/-!
# Reading a command line

The words of a command line are read left to right against a level of the grammar.

- A command's name starts that command; the rest of the words belong to it. The name `help`
  instead prints the help page of the command it names (of the program when it names none).
- `--` ends the flags: every later word is an operand.
- `--name` and `--name=value` name a flag by its long name; `-abc` names flags by their short
  names, one letter each.
- A word after a flag that takes a value is that value. Any other word is the next operand.

A flag's or operand's value is held back and read, and checked, only when the next flag or
operand starts or when the words end. So a refused value is reported at that point, and a word
that fits nothing is reported before a value held back for it. Values given at the top are read
only after the command's words are read and checked.

A flag that switches something on, or takes a value, may be given once at each level. After all
words are read, each operand that must be given has to be there, and at the top a command must
have been named; a command line with nothing at all gets the help page instead.
-/

namespace ContactMigration.Shell

/-- A value read for a flag or operand. -/
inductive Given where
  | text (value : String)
  | integer (value : Int)
  /-- A switch turned on. -/
  | on
  /-- Given, but its value was refused. -/
  | refused
  deriving DecidableEq, Repr

/-- Reads a 64-bit signed integer in decimal with an optional sign, digit by digit; the reason
it is not one, found at the first digit that goes wrong. -/
def readInteger (s : String) : Except String Int :=
  let (negative, digits) := match s.toList with
    | '+' :: rest => (false, rest)
    | '-' :: rest => (true, rest)
    | cs => (false, cs)
  if s.isEmpty then .error "cannot parse integer from empty string"
  else if digits.isEmpty then .error "invalid digit found in string"
  else
    let step (acc : Int) (c : Char) : Except String Int :=
      if !c.isDigit then .error "invalid digit found in string"
      else
        let d : Int := (c.toNat - '0'.toNat : Nat)
        let next := if negative then acc * 10 - d else acc * 10 + d
        if next > 9223372036854775807 then .error "number too large to fit in target type"
        else if next < -9223372036854775808 then .error "number too small to fit in target type"
        else .ok next
    digits.foldlM step 0

/-- Reads one value as a check says. -/
def Check.read (check : Check) (value display : String) : Except Complaint Given :=
  match check with
  | .path =>
    if value.isEmpty then .error (Complaint.missingValue display []) else .ok (.text value)
  | .choice names =>
    if names.contains value then .ok (.text value)
    else if value.isEmpty then .error (Complaint.missingValue display names)
    else .error (Complaint.notAChoice value display names)
  | .integer =>
    match readInteger value with
    | .ok n => .ok (.integer n)
    | .error reason => .error (Complaint.badValue value display reason)
  | .word => .ok (.text value)

/-- The possible values a check allows, when it allows a list of them. -/
def Check.choices : Check → List String
  | .choice names => names
  | _ => []

/-- What has been read at one level so far. -/
structure Scan where
  /-- The flags and operands given, by name, in the order they were first given. -/
  given : List (String × Given) := []
  /-- A flag or operand whose values are held back, not yet read. -/
  pending : Option (String × List String) := none
  /-- Whether the pending flag still waits for its value. -/
  awaiting : Bool := false
  /-- The place of the next operand. -/
  position : Nat := 0
  /-- Whether `--` was seen, after which every word is an operand. -/
  escaped : Bool := false
  deriving Repr

namespace Scan

/-- Whether a flag or operand was given. -/
def has (s : Scan) (name : String) : Bool :=
  s.given.any (·.1 == name)

/-- Records a value, in the place of the first giving. -/
def record (s : Scan) (name : String) (g : Given) : Scan :=
  if s.has name then
    { s with given := s.given.map fun p => if p.1 == name then (name, g) else p }
  else { s with given := s.given ++ [(name, g)] }

end Scan

namespace Level

/-- How a flag or operand is shown, how its value is checked, and whether it is a flag. -/
def describe (lv : Level) (name : String) : String × Check × Bool :=
  match lv.flagNamed? name with
  | some f =>
    (f.display, (match f.effect with
      | .value _ check => check
      | _ => .word), true)
  | none =>
    match lv.operands.find? (·.name == name) with
    | some o => (o.display o.required, o.check, false)
    | none => (name, .word, false)

/-- Reads the values of a flag or operand into the scan. A flag given before is refused; a
refused value still counts as given. -/
def accept (lv : Level) (s : Scan) (name : String) (values : List String) :
    Scan × Option Complaint :=
  let (display, check, isFlag) := lv.describe name
  match values with
  | [] => (s, some (Complaint.missingValue display check.choices))
  | value :: _ =>
    if isFlag && s.has name then (s, some (Complaint.givenTwice display lv.usage))
    else
      let s := s.record name .refused
      match check.read value display with
      | .ok g => (s.record name g, none)
      | .error c => (s, some c)

/-- Reads the values held back, if any. -/
def settle (lv : Level) (s : Scan) : Scan × Option Complaint :=
  match s.pending with
  | none => (s, none)
  | some (name, values) => lv.accept { s with pending := none, awaiting := false } name values

/-- Reads the values held back, stopping at a refused one. -/
def settled (lv : Level) (s : Scan) : Except Stop Scan :=
  match lv.settle s with
  | (s, none) => .ok s
  | (_, some c) => .error (.refused c)

/-- The names given so far that a usage line may show: all but hidden flags. -/
def shown (lv : Level) (s : Scan) : List String :=
  s.given.filterMap fun (name, _) =>
    match lv.flagNamed? name with
    | some f => if f.hidden then none else some name
    | none => some name

/-- The usage line for a refusal: the plain one, or the one with the names used. -/
def usageFor (lv : Level) (used : List String) : String :=
  if used.isEmpty then lv.usage else lv.usageWith used

/-- Turns a flag on, or stops for the page it asks for. -/
def flip (lv : Level) (s : Scan) (f : Flag) : Except Stop Scan := do
  let s ← lv.settled s
  match f.effect with
  | .help => throw (.page lv.helpPage)
  | .version => throw (.page (lv.release ++ "\n"))
  | _ =>
    if s.has f.long then throw (.refused (Complaint.givenTwice f.display lv.usage))
    else pure (s.record f.long .on)

/-- The refusal of an unknown long flag, with the most similar flag when one is close. -/
def unknownLong (lv : Level) (s : Scan) (name : String) : Complaint :=
  let word := "--" ++ name
  match closest? name (lv.flags.map (·.long)) with
  | some near =>
    let s := if s.has near then s else s.record near .refused
    { message := "unexpected argument '" ++ word ++ "' found",
      tips := Complaint.similarTip "argument" ["--" ++ near],
      usage := some (lv.usageFor (lv.shown s)) }
  | none =>
    let tips := if lv.operands.isEmpty then [] else [Complaint.asValueTip word]
    Complaint.unexpected word tips (lv.usageFor (lv.shown s))

/-- The refusal of a word that is no flag and has no operand place left. -/
def stray (lv : Level) (s : Scan) (word : String) : Complaint :=
  if s.escaped && lv.commands.any (·.1 == word) then Complaint.escapedCommand word lv.usage
  else if lv.commands.isEmpty then Complaint.unexpected word [] lv.usage
  else
    let similar := alike word (lv.commands.map (·.1))
    if !similar.isEmpty || lv.operands.isEmpty then
      Complaint.unknownCommand word similar lv.usage
    else Complaint.unexpected word [] lv.usage

/-- Reads a group of short flags. -/
def shorts (lv : Level) : Scan → List Char → Except Stop Scan
  | s, [] => .ok s
  | s, c :: rest =>
    match lv.flagLetter? c with
    | none =>
      let (s, _) := lv.settle s
      let word := "-" ++ String.singleton c
      let tips := if !s.escaped && !lv.operands.isEmpty then [Complaint.asValueTip word] else []
      .error (.refused (Complaint.unexpected word tips lv.usage))
    | some f =>
      if f.takesValue then do
        let s ← lv.settled s
        if rest.isEmpty then pure { s with pending := some (f.long, []), awaiting := true }
        else
          let value := String.ofList (match rest with
            | '=' :: more => more
            | _ => rest)
          match lv.accept s f.long [value] with
          | (s, none) => pure s
          | (_, some c) => throw (.refused c)
      else do
        let s ← lv.flip s f
        lv.shorts s rest

/-- The help page a `help` command asks for: that of the command its words name, level by
level. -/
def helpWalk (lv : Level) (others : String → Option Level) : List String → Stop
  | [] => .page lv.helpPage
  | word :: rest =>
    if lv.commands.any (·.1 == word) then
      match others word with
      | some inner => helpWalk inner others rest
      | none => .page lv.helpPage
    else .refused (Complaint.unknownCommand word [] lv.usage)

/-- The names given that a refused attached value's usage line shows: all but hidden flags and
operands that must be given. -/
def shownOptional (lv : Level) (s : Scan) : List String :=
  (lv.shown s).filter fun n => !lv.operands.any fun o => o.name == n && o.required

/-- Splits the text after `--` into the flag's name and the value attached with `=`. -/
def splitAttached (body : String) : String × Option String :=
  let cs := body.toList
  match cs.findIdx? (· == '=') with
  | some i => (String.ofList (cs.take i), some (String.ofList (cs.drop (i + 1))))
  | none => (body, none)

/-- Reads words at this level until they end or a command is named; then gives the scan and
the command with the words after it. -/
def scan (lv : Level) (others : String → Option Level) :
    Scan → List String → Except Stop (Scan × Option (String × List String))
  | s, [] => .ok (s, none)
  | s, word :: rest =>
    if !s.escaped && lv.commands.any (·.1 == word) then
      if word == "help" then .error (lv.helpWalk others rest)
      else .ok (s, some (word, rest))
    else if !s.escaped && word == "--" then lv.scan others { s with escaped := true } rest
    else if !s.escaped && word.startsWith "--" then
      let (name, attached) := splitAttached (String.ofList (word.toList.drop 2))
      match lv.flagNamed? name with
      | none =>
        let (s, _) := lv.settle s
        .error (.refused (lv.unknownLong s name))
      | some f =>
        match f.takesValue, attached with
        | true, some value => do
          let s ← lv.settled s
          match lv.accept s f.long [value] with
          | (s, none) => lv.scan others s rest
          | (_, some c) => throw (.refused c)
        | true, none => do
          let s ← lv.settled s
          lv.scan others { s with pending := some (f.long, []), awaiting := true } rest
        | false, some value =>
          .error (.refused (Complaint.extraValue value f.display
            (lv.usageWith (lv.shownOptional s ++ [f.long]))))
        | false, none => do
          let s ← lv.flip s f
          lv.scan others s rest
    else if !s.escaped && word.startsWith "-" && word != "-" then do
      let s ← lv.shorts s (word.toList.drop 1)
      lv.scan others s rest
    else if !s.escaped && s.awaiting then
      match s.pending with
      | some (name, values) =>
        lv.scan others { s with pending := some (name, values ++ [word]), awaiting := false } rest
      | none => lv.scan others { s with awaiting := false } rest
    else
      match lv.operands[s.position]? with
      | some o => do
        let s ← lv.settled s
        lv.scan others { s with pending := some (o.name, [word]), position := s.position + 1 } rest
      | none =>
        let (s, _) := lv.settle s
        .error (.refused (lv.stray s word))

/-- Reads the values still held back and checks that nothing is missing: at the top a command
(`commanded` says whether one was named), and the operands that must be given. -/
def finish (lv : Level) (s : Scan) (commanded : Bool) : Except Stop (List (String × Given)) := do
  let s ← lv.settled s
  if !commanded && lv.needsCommand then
    if s.given.isEmpty then throw (.bare lv.helpPage)
    else throw (.refused (Complaint.missingCommand lv.title (lv.commands.map (·.1)) lv.usage))
  let missing := lv.operands.filter fun o => o.required && !s.has o.name
  if !missing.isEmpty then
    throw (.refused (Complaint.missingOperands (missing.map (·.display true))
      (lv.usageWith (lv.shown s ++ missing.map (·.name)))))
  pure s.given

end Level

/-- A command line as read: what was given at the top, the command named, and what was given
after it. -/
structure Reading where
  top : List (String × Given)
  command : Option String
  below : List (String × Given)
  deriving Repr

/-- Reads a command line: the top level's words, then the named command's. The command's words
are read and checked before the values held back at the top. -/
def readWords (top : Level) (others : String → Option Level) (words : List String) :
    Except Stop Reading := do
  let (s, named) ← top.scan others {} words
  match named with
  | none =>
    let above ← top.finish s false
    pure ⟨above, none, []⟩
  | some (name, rest) =>
    match others name with
    | none =>
      let above ← top.finish s true
      pure ⟨above, some name, []⟩
    | some inner =>
      let (t, _) ← inner.scan others {} rest
      let below ← inner.finish t true
      let above ← top.finish s true
      pure ⟨above, some name, below⟩

end ContactMigration.Shell
