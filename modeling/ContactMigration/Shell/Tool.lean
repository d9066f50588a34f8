import ContactMigration.Shell.Reading

/-!
# The command line of the migration tool

`contact-migrate [OPTIONS] <COMMAND>` with the commands
- `init`: create the database and its tables;
- `migrate <INPUT>`: migrate the record in a file, or on standard input for `-`;
- `show <ID>`: show a migrated contact;
- `delete <ID>`: delete a migrated contact with everything that belongs to it.

The options `--format`, `--db` and `--config` (and `--pretty`, short for `--format pretty`) may
be given before or after the command; one given after the command wins.
-/

namespace ContactMigration.Shell

/-- The name of the program. -/
def programName : String := "contact-migrate"

/-- The options every level takes. -/
def sharedFlags : List Flag := [
  { long := "format", effect := .value "FORMAT" (.choice ["json", "pretty", "minimal"]),
    help := "Output format", fallback := some "json" },
  { long := "pretty", effect := .switch, help := "Shorthand for --format pretty", hidden := true },
  { long := "db", effect := .value "DB" .path,
    help := "SQLite database path (overrides config and CONTACT_MIGRATE_DB)" },
  { long := "config", effect := .value "CONFIG" .path, help := "YAML configuration file" }]

/-- The flag that asks for help. -/
def helpFlag : Flag :=
  { long := "help", short := some 'h', effect := .help, help := "Print help" }

/-- The flag that asks for the version. -/
def versionFlag : Flag :=
  { long := "version", short := some 'V', effect := .version, help := "Print version" }

/-- A command's level. -/
def commandLevel (name about : String) (operands : List Operand) : Level :=
  { title := programName ++ " " ++ name, about, operands, flags := sharedFlags ++ [helpFlag] }

/-- The commands, with what each does. -/
def commandList : List (String × String) := [
  ("init", "Create the database and schema"),
  ("migrate", "Migrate one contact record (JSON) and print the id correlation report"),
  ("show", "Display a migrated contact"),
  ("delete", "Delete a migrated contact and everything beneath it"),
  ("help", "Print this message or the help of the given subcommand(s)")]

/-- The operand naming a contact. -/
def idOperand : Operand :=
  { name := "ID", check := .integer, help := "Source person id" }

/-- The operand naming commands whose help is wanted. -/
def commandsOperand : Operand :=
  { name := "COMMAND", check := .word, help := "Print help for the subcommand(s)",
    required := false, repeated := true }

/-- The level of a command. -/
def levelOf (name : String) : Option Level :=
  (commandList.find? (·.1 == name)).map fun (_, about) =>
    if name == "migrate" then
      commandLevel name about
        [{ name := "INPUT", check := .path, help := "Record file, or `-` for stdin" }]
    else if name == "show" || name == "delete" then commandLevel name about [idOperand]
    else if name == "help" then
      { title := programName ++ " help", about := about, operands := [commandsOperand] }
    else commandLevel name about []

/-- The program's own level. -/
def topLevel : Level :=
  { title := programName,
    about := "Migrate contact records from the system of record into the contacts store",
    flags := sharedFlags ++ [helpFlag, versionFlag], commands := commandList,
    needsCommand := true, release := programName ++ " 0.1.0" }

/-- How results are printed. -/
inductive Format where
  | json
  | pretty
  | minimal
  deriving DecidableEq, Repr

/-- The format of a name, JSON for any other. -/
def Format.ofName (name : String) : Format :=
  if name == "pretty" then .pretty else if name == "minimal" then .minimal else .json

/-- What the tool is asked to do. -/
inductive Action where
  /-- Create the database and its tables. -/
  | create
  /-- Migrate the record read from a file, or from standard input for `-`. -/
  | migrate (input : String)
  /-- Show a migrated contact. -/
  | inspect (contactId : Int)
  /-- Delete a migrated contact. -/
  | remove (contactId : Int)
  deriving DecidableEq, Repr

/-- A command line that asks for work. -/
structure Invocation where
  format : Format
  database : Option String
  config : Option String
  action : Action
  deriving DecidableEq, Repr

namespace Reading

/-- The value of a name, given after the command or else at the top. -/
def value? (r : Reading) (name : String) : Option Given :=
  match r.below.lookup name with
  | some g => some g
  | none => r.top.lookup name

/-- The text given for a name. -/
def text? (r : Reading) (name : String) : Option String :=
  match r.value? name with
  | some (.text t) => some t
  | _ => none

/-- The integer given for a name. -/
def integer? (r : Reading) (name : String) : Option Int :=
  match r.value? name with
  | some (.integer n) => some n
  | _ => none

/-- The work a command line asks for. -/
def invocation? (r : Reading) : Option Invocation := do
  let format :=
    if r.value? "pretty" == some .on then Format.pretty
    else Format.ofName ((r.text? "format").getD "json")
  let action ← match r.command with
    | some "init" => some Action.create
    | some "migrate" => Action.migrate <$> r.text? "INPUT"
    | some "show" => Action.inspect <$> r.integer? "ID"
    | some "delete" => Action.remove <$> r.integer? "ID"
    | _ => none
  pure ⟨format, r.text? "db", r.text? "config", action⟩

end Reading

/-- Reads the words of a command line into the work they ask for, or the stop they come to. -/
def parseCommandLine (words : List String) : Except Stop Invocation := do
  let r ← readWords topLevel levelOf words
  match r.invocation? with
  | some inv => pure inv
  | none => throw (.refused { message := "no command to run" })

end ContactMigration.Shell
