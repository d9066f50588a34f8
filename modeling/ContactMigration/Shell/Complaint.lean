import ContactMigration.Shell.Grammar
import ContactMigration.Shell.Similarity

/-!
# Refused command lines

When a command line does not fit its grammar, the program says why and stops with exit code 2.
The text has three parts:
- `error: ` and what is wrong;
- tips, each on its own line after a blank one: a similar name that exists, or how to pass a
  word that looks like a flag as a value;
- the usage line that applies, then a pointer to `--help`.

Reading may also stop without a fault: a help page or the version is asked for (standard output,
exit code 0), or nothing at all is given and the help page is shown instead (standard error,
exit code 2).
-/

namespace ContactMigration.Shell

/-- Why a command line is refused: what is wrong, tips, and the usage line that applies. -/
structure Complaint where
  message : String
  tips : List String := []
  usage : Option String := none
  deriving DecidableEq, Repr

/-- How reading a command line stops before anything runs. -/
inductive Stop where
  /-- A page asked for: help or the version, for standard output. -/
  | page (text : String)
  /-- The help page shown because nothing was given, for standard error. -/
  | bare (text : String)
  /-- A refused command line. -/
  | refused (complaint : Complaint)
  deriving DecidableEq, Repr

namespace Complaint

/-- The full text of a complaint. -/
def render (c : Complaint) : String :=
  "error: " ++ c.message ++
    (if c.tips.isEmpty then "" else "\n" ++ String.join (c.tips.map ("\n  tip: " ++ ·))) ++
    (match c.usage with
      | some u => "\n\nUsage: " ++ u
      | none => "") ++
    "\n\nFor more information, try '--help'.\n"

/-- The list of values a complaint names, on a line of its own. -/
def valuesLine (title : String) (values : List String) : String :=
  if values.isEmpty then "" else "\n  [" ++ title ++ ": " ++ ", ".intercalate values ++ "]"

/-- A word that fits nothing. -/
def unexpected (word : String) (tips : List String) (usage : String) : Complaint :=
  { message := "unexpected argument '" ++ word ++ "' found", tips, usage := some usage }

/-- The tip for passing a word that looks like a flag as a value. -/
def asValueTip (word : String) : String :=
  "to pass '" ++ word ++ "' as a value, use '-- " ++ word ++ "'"

/-- The tip naming similar things that exist. -/
def similarTip (kind : String) : List String → List String
  | [] => []
  | [one] => ["a similar " ++ kind ++ " exists: '" ++ one ++ "'"]
  | many => ["some similar " ++ kind ++ "s exist: " ++ ", ".intercalate (many.map fun n => "'" ++ n ++ "'")]

/-- A command name that does not exist, with the similar ones. -/
def unknownCommand (word : String) (similar : List String) (usage : String) : Complaint :=
  { message := "unrecognized subcommand '" ++ word ++ "'", tips := similarTip "subcommand" similar,
    usage := some usage }

/-- A flag or operand given no value. -/
def missingValue (display : String) (choices : List String) : Complaint :=
  { message := "a value is required for '" ++ display ++ "' but none was supplied" ++
      valuesLine "possible values" choices }

/-- A value that is not one of the choices. -/
def notAChoice (value display : String) (choices : List String) : Complaint :=
  { message := "invalid value '" ++ value ++ "' for '" ++ display ++ "'" ++
      valuesLine "possible values" choices,
    tips := similarTip "value" ((closest? value choices).toList) }

/-- A value its check refuses, with the reason. -/
def badValue (value display reason : String) : Complaint :=
  { message := "invalid value '" ++ value ++ "' for '" ++ display ++ "': " ++ reason }

/-- A flag given twice. -/
def givenTwice (display : String) (usage : String) : Complaint :=
  { message := "the argument '" ++ display ++ "' cannot be used multiple times",
    usage := some usage }

/-- A value attached to a flag that takes none. -/
def extraValue (value display : String) (usage : String) : Complaint :=
  { message := "unexpected value '" ++ value ++ "' for '" ++ display ++
      "' found; no more were expected", usage := some usage }

/-- Operands that must be given and were not. -/
def missingOperands (displays : List String) (usage : String) : Complaint :=
  { message := "the following required arguments were not provided:" ++
      String.join (displays.map ("\n  " ++ ·)), usage := some usage }

/-- A command that must follow and does not. -/
def missingCommand (title : String) (commands : List String) (usage : String) : Complaint :=
  { message := "'" ++ title ++ "' requires a subcommand but one was not provided" ++
      valuesLine "subcommands" commands, usage := some usage }

/-- A command name written after `--`, where it is only a value. -/
def escapedCommand (word : String) (usage : String) : Complaint :=
  { message := "unexpected argument '" ++ word ++ "' found",
    tips := ["subcommand '" ++ word ++ "' exists; to use it, remove the '--' before it"],
    usage := some usage }

end Complaint

end ContactMigration.Shell
