import ContactMigration.Shell.Output
import ContactMigration.Shell.Files
import ContactMigration.Settings.Config
import ContactMigration.Migration.Migrator
import ContactMigration.Record.Decode

/-!
# Running the tool

One run reads its command line, then its settings, then does its command.

Settings start at the defaults. A `--config` file is read as YAML over them, then the
environment variables, then the checks. Last, `--db` names the database, and the checks run
again.

The commands:
- `init` makes the directory the database file lives in, opens the database (which creates its
  tables), makes the lock directory, and says on standard error where generated ids start.
- `migrate` reads the record, from standard input for `-`, before it opens the database. It
  checks the record's ids against the threshold, takes the contact's lock file, and migrates the
  record in one transaction. Then it prints the report.
- `show` opens the database and prints the contact it reads back.
- `delete` opens the database, takes the contact's lock file, and removes the contact in one
  transaction.

A run ends with exit code 0; 1 after a failure, printed to standard error in the chosen format;
2 for a command line the grammar refuses. A page asked for, help or the version, is printed to
standard output with exit code 0.

Opening the database also sets how long to wait for a busy database, in milliseconds as a
signed 32-bit number. A longer wait than that number holds is no failure the tool reports: the
process panics with `too big`.
-/

namespace ContactMigration.Shell

open Store Migration Settings

/-- What a run gives back: its exit code and what it printed, or the message it panicked
with. -/
structure Outcome where
  code : Nat
  stdout : String := ""
  stderr : String := ""
  panic : Option String := none
  deriving DecidableEq, Repr

/-- Why the work of a run stops early: a failure the tool reports, or a panic. -/
inductive Halt where
  | failed (e : MigrationError)
  | panicked (message : String)

/-- The work of a run in a monad `m` of files: it may stop with a `Halt`. -/
abbrev Task (m : Type → Type) (α : Type) := ExceptT Halt m α

/-- The longest wait for a busy database, in milliseconds, that can be set. -/
def longestWait : Nat := 2147483647

variable {m : Type → Type} [Monad m] [Files m]

/-- A file operation whose failure is an I/O error. -/
def fileStep {α : Type} (op : m (Except FileError α)) : Task m α :=
  ExceptT.mk ((·.mapError fun e => Halt.failed (.io e.message)) <$> op)

/-- A step that cannot touch files. -/
def pureStep {α : Type} (result : Except MigrationError α) : Task m α :=
  ExceptT.mk (pure (result.mapError .failed))

/-- The settings of a run: the configuration file and the environment over the defaults, then
the database of the command line. -/
def settingsOf (inv : Invocation) (env : String → Option String) : Task m Config := do
  let yaml ← match inv.config with
    | some path => some <$> fileStep (Files.readText path)
    | none => pure none
  pureStep (Config.forRun yaml env inv.database)

/-- Opens the database the settings name, a new one in memory or the file, and sets the wait
for a busy database. -/
def openDatabase (c : Config) : Task m Tables := do
  let s ← if c.isMemory then
      match Tables.fresh? c.idThreshold with
      | some s => pure s
      | none => pureStep (.error (.config ("id_threshold must be greater than 1, got " ++
          toString c.idThreshold)))
    else
      ExceptT.mk ((·.mapError fun e => Halt.failed (.store e)) <$>
        Files.openStore c.database c.idThreshold)
  if c.busyTimeoutMs > longestWait then throw (.panicked "too big")
  pure s

/-- Writes the tables back, unless the database is in memory. -/
def saveDatabase (c : Config) (s : Tables) : Task m Unit :=
  if c.isMemory then pure () else ExceptT.lift (Files.saveStore c.database s)

/-- Takes the lock file of a contact, when the settings give a lock directory. -/
def takeLock (c : Config) (contactId : Int) : Task m Unit :=
  match c.lockDirectory? with
  | none => pure ()
  | some dir => do
    fileStep (Files.makeDirectories dir)
    fileStep (Files.touch (joinPath dir ("contact-" ++ toString contactId ++ ".lock")))

/-- Runs a transaction on the database and writes the tables back. -/
def transactOn {α : Type} (c : Config) (s : Tables) (contactId : Int) (work : Work α) : Task m α := do
  let (outcome, migrator) := ({ store := s, threshold := c.idThreshold } : Migrator).transact
    contactId work
  saveDatabase c migrator.store
  pureStep outcome

/-- `init`: what it prints to standard error. -/
def createDatabase (c : Config) : Task m String := do
  if !c.isMemory then
    match parentPath? c.database with
    | some dir => if !dir.isEmpty then fileStep (Files.makeDirectories dir)
    | none => pure ()
  let _ ← openDatabase c
  match c.lockDirectory? with
  | some dir => fileStep (Files.makeDirectories dir)
  | none => pure ()
  pure ("Initialized " ++ c.database ++ " (generated ids start at " ++ toString c.idThreshold ++
    ")\n")

/-- `migrate`: the report it prints; `stdin` reads standard input. -/
def migrateRecord (c : Config) (format : Format) (input : String) (stdin : m String) :
    Task m String := do
  let raw ← if input == "-" then ExceptT.lift stdin else fileStep (Files.readText input)
  let record ← pureStep ((ContactRecord.ofText raw).mapError .json)
  let s ← openDatabase c
  pureStep (checkIdSpace record c.idThreshold)
  takeLock c record.personId
  let migrated ← transactOn c s record.personId (migration record)
  pure (reportText format migrated.report migrated.replaced)

/-- `show`: the contact it prints. -/
def showContact (c : Config) (format : Format) (contactId : Int) : Task m String := do
  let s ← openDatabase c
  match s.aggregate? contactId with
  | some a => pure (aggregateText format a)
  | none => pureStep (.error (.contactNotFound contactId))

/-- `delete`: what it prints. -/
def deleteContact (c : Config) (format : Format) (contactId : Int) : Task m String := do
  let s ← openDatabase c
  takeLock c contactId
  transactOn c s contactId (removal contactId)
  pure (removedText format contactId)

/-- Does the work a command line asks for: what goes to standard output and to standard
error. `stdin` reads standard input. -/
def perform (inv : Invocation) (env : String → Option String) (stdin : m String) :
    Task m (String × String) := do
  let c ← settingsOf inv env
  match inv.action with
  | .create => return ("", ← createDatabase c)
  | .migrate input => return (← migrateRecord c inv.format input stdin, "")
  | .inspect contactId => return (← showContact c inv.format contactId, "")
  | .remove contactId => return (← deleteContact c inv.format contactId, "")

/-- One run of the tool on its command line's words, with the environment; `stdin` reads
standard input. -/
def runTool (words : List String) (env : String → Option String) (stdin : m String) :
    m Outcome := do
  match parseCommandLine words with
  | .error (.page text) => pure { code := 0, stdout := text }
  | .error (.bare text) => pure { code := 2, stderr := text }
  | .error (.refused complaint) => pure { code := 2, stderr := complaint.render }
  | .ok inv =>
    match ← (perform inv env stdin).run with
    | .ok (out, err) => pure { code := 0, stdout := out, stderr := err }
    | .error (.failed e) => pure { code := 1, stderr := failureText inv.format e }
    | .error (.panicked message) => pure { code := 101, panic := some message }

end ContactMigration.Shell
