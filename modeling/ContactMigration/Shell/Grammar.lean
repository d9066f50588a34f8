/-!
# The grammar of a command line

A command line is read against a grammar. There is one level for the program itself and one for
each of its commands. A level has:
- *flags*, written `--name` (some also `-c`), that either take one value or switch something on;
- *operands*, the values written in order without a name;
- at the top, *commands*, each a level of its own.

From the grammar come the texts that describe it:
- the *usage line*: the level's name, `[OPTIONS]` when it has options to show, its operands, and
  `<COMMAND>` when a command must follow;
- the *help page*: what the level does, its usage line, and a section for each of its commands,
  operands and options.

A flag or operand is shown the way it is written: `--db <DB>`, `--pretty`, `<ID>`,
`[COMMAND]...`.
-/

namespace ContactMigration.Shell

/-- How a value is checked when it is read. -/
inductive Check where
  /-- Any text but the empty one. -/
  | path
  /-- One of a list of names. -/
  | choice (names : List String)
  /-- A 64-bit signed integer. -/
  | integer
  /-- Any text. -/
  | word
  deriving DecidableEq, Repr

/-- What a flag does when it is given. -/
inductive Effect where
  /-- It takes one value, shown under the given name. -/
  | value (name : String) (check : Check)
  /-- It switches something on. -/
  | switch
  /-- It asks for the help page. -/
  | help
  /-- It asks for the version. -/
  | version
  deriving DecidableEq, Repr

/-- A named argument of a command line. -/
structure Flag where
  /-- The long name, written after `--`. -/
  long : String
  /-- The short name, written after `-`. -/
  short : Option Char := none
  effect : Effect
  /-- The one-line description on the help page. -/
  help : String
  /-- Hidden flags are accepted but left off the help page and the usage line. -/
  hidden : Bool := false
  /-- The value used when the flag is not given. -/
  fallback : Option String := none
  deriving DecidableEq, Repr

/-- An operand: a value given by its place on the command line. -/
structure Operand where
  /-- The name it is shown under. -/
  name : String
  check : Check
  /-- The one-line description on the help page. -/
  help : String
  required : Bool := true
  /-- Whether it takes any number of values. -/
  repeated : Bool := false
  deriving DecidableEq, Repr

/-- One level of a command line: the program, or one of its commands. -/
structure Level where
  /-- The name the level is called by, as in its usage line: `prog` or `prog command`. -/
  title : String
  /-- What the level does. -/
  about : String
  operands : List Operand := []
  flags : List Flag := []
  /-- The commands that may follow, with what each does; empty below the top. -/
  commands : List (String × String) := []
  /-- Whether a command must follow. -/
  needsCommand : Bool := false
  /-- The line the version flag prints. -/
  release : String := ""
  deriving DecidableEq, Repr

namespace Flag

/-- Whether the flag takes a value. -/
def takesValue (f : Flag) : Bool :=
  match f.effect with
  | .value _ _ => true
  | _ => false

/-- The flag as written with its value: `--db <DB>`, `--pretty`. -/
def display (f : Flag) : String :=
  "--" ++ f.long ++
    match f.effect with
    | .value name _ => " <" ++ name ++ ">"
    | _ => ""

/-- The possible values of the flag, if it takes one of a list. -/
def choices (f : Flag) : List String :=
  match f.effect with
  | .value _ (.choice names) => names
  | _ => []

/-- The default and the possible values of the flag, as its help line shows them. -/
def details (f : Flag) : List String :=
  (match f.fallback with
    | some d => ["[default: " ++ d ++ "]"]
    | none => []) ++
  (match f.choices with
    | [] => []
    | names => ["[possible values: " ++ ", ".intercalate names ++ "]"])

end Flag

/-- The operand as written: `<ID>` when it must be given, `[COMMAND]` when not, with `...` when it
takes any number of values. -/
def Operand.display (o : Operand) (asRequired : Bool) : String :=
  (if asRequired && !o.repeated then "<" ++ o.name ++ ">" else "[" ++ o.name ++ "]") ++
    (if o.repeated then "..." else "")

/-- Spaces. -/
def spaces (n : Nat) : String :=
  String.ofList (List.replicate n ' ')

/-- A text padded on the right to at least `width` characters. -/
def padRight (s : String) (width : Nat) : String :=
  s ++ spaces (width - s.length)

/-- A text padded on the left to at least `width` characters. -/
def padLeft (s : String) (width : Nat) : String :=
  spaces (width - s.length) ++ s

namespace Level

/-- The flags shown on the help page. -/
def shownFlags (lv : Level) : List Flag :=
  lv.flags.filter (!·.hidden)

/-- Whether the usage line shows `[OPTIONS]`: some shown flag takes a value or switches
something on. -/
def hasOptions (lv : Level) : Bool :=
  lv.shownFlags.any fun f =>
    match f.effect with
    | .value _ _ | .switch => true
    | _ => false

/-- The tail of a usage line for the command that must follow. -/
def commandTail (lv : Level) : List String :=
  if lv.needsCommand then ["<COMMAND>"] else []

/-- The usage line of the help page. -/
def usage (lv : Level) : String :=
  " ".intercalate <|
    [lv.title] ++ (if lv.hasOptions then ["[OPTIONS]"] else []) ++
      lv.operands.map (fun o => o.display o.required) ++ lv.commandTail

/-- The usage line after some arguments were used: the flags among `used`, in order, then every
operand, then the command. -/
def usageWith (lv : Level) (used : List String) : String :=
  let flags := (used.filterMap fun name => lv.flags.find? (·.long == name)).map Flag.display
  let named := flags.foldl (fun acc d => if acc.contains d then acc else acc ++ [d]) []
  let operands := lv.operands.map fun o =>
    o.display (o.required || used.contains o.name)
  " ".intercalate ([lv.title] ++ named ++ operands ++ lv.commandTail)

/-- The lines of the commands section. -/
def commandLines (lv : Level) : List String :=
  let width := lv.commands.foldl (fun w c => max w c.1.length) 2
  lv.commands.map fun (name, about) => "  " ++ padRight name (width + 2) ++ about

/-- The lines of the arguments section. -/
def operandLines (lv : Level) : List String :=
  let width := lv.operands.foldl (fun w o => max w (o.display o.required).length) 0
  lv.operands.map fun o => "  " ++ padRight (o.display o.required) (width + 2) ++ o.help

/-- The lines of the options section. -/
def flagLines (lv : Level) : List String :=
  let width := lv.shownFlags.foldl (fun w f => max w (f.display.length + 4)) 0
  lv.shownFlags.map fun f =>
    let lead := match f.short with
      | some c => "-" ++ String.singleton c ++ ", "
      | none => "    "
    "  " ++ padRight (lead ++ f.display) (width + 2) ++ " ".intercalate (f.help :: f.details)

/-- The help page. -/
def helpPage (lv : Level) : String :=
  let part (title : String) (lines : List String) : List String :=
    if lines.isEmpty then [] else [title ++ ":\n" ++ "\n".intercalate lines]
  let sections :=
    part "Commands" lv.commandLines ++ part "Arguments" lv.operandLines ++
      part "Options" lv.flagLines
  lv.about ++ "\n\n" ++ "Usage: " ++ lv.usage ++ "\n\n" ++ "\n\n".intercalate sections ++ "\n"

/-- The flag of a long name. -/
def flagNamed? (lv : Level) (long : String) : Option Flag :=
  lv.flags.find? (·.long == long)

/-- The flag of a short name. -/
def flagLetter? (lv : Level) (c : Char) : Option Flag :=
  lv.flags.find? (·.short == some c)

end Level

end ContactMigration.Shell
