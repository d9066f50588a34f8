import ContactMigration.Yaml.Decode
import ContactMigration.Settings.Path
import ContactMigration.MigrationError
import ContactMigration.Text.Blank
import ContactMigration.Json.Value

/-!
# Settings

The settings of the migration tool are:
- where the database lives;
- the id threshold, below which ids come from the system of record;
- how long to wait for a busy database;
- optionally, where the lock files go.

The settings start at their defaults. A YAML text overrides them, and a text of only blanks
keeps the defaults. It must be a mapping of the four known fields, each at most once. Then two
environment variables may override the database and the threshold. Last come the checks: the
threshold must be above 1 and the database path must not be empty.

Locks go in the given directory. Without one, they go in `locks/` beside a database file. An
in-memory database takes no locks.
-/

namespace ContactMigration.Settings

open Yaml

/-- The settings. -/
structure Config where
  database : String := "contacts.db"
  idThreshold : Int := 20000000
  busyTimeoutMs : Nat := 5000
  lockDir : Option String := none
  deriving DecidableEq, Repr, Inhabited

namespace Config

/-- The name of the in-memory database. -/
def memory : String := ":memory:"

/-- The environment variable naming the database. -/
def databaseVariable : String := "CONTACT_MIGRATE_DB"

/-- The environment variable giving the id threshold. -/
def thresholdVariable : String := "CONTACT_MIGRATE_ID_THRESHOLD"

/-- The names of the fields, in order. -/
def fieldNames : List String := ["database", "id_threshold", "busy_timeout_ms", "lock_dir"]

/-- Sets one field from its node, `key` being the field's name and `path` the path of the
value. -/
def setField (c : Config) (key path : String) (value : Node) : Except ReadError Config :=
  let placed {α : Type} (r : Except Problem α) : Except ReadError α := r.mapError .placed
  if key == "database" then
    (fun v => { c with database := v }) <$> placed (readText "path string" path value)
  else if key == "id_threshold" then
    (fun v => { c with idThreshold := v }) <$> placed (readI64 path value)
  else if key == "busy_timeout_ms" then
    (fun v => { c with busyTimeoutMs := v.toNat }) <$> placed (readU64 path value)
  else (fun v => { c with lockDir := v }) <$> readOption (readText "path string") path value

/-- Reads the entries of the settings mapping onto `c`; `seen` are the fields given so far. A
value's path is its key, or `?` when the key is written as an alias. -/
def readEntries : Entries → Config → List String → Except ReadError Config
  | .close, c, _ => .ok c
  | .broken f, _, _ => .error (.placed (.fault f))
  | .cons key aliased value rest, c, seen => do
    let name ← match key with
      | .scalar text _ _ _ => pure text
      | other => throw (.placed (mismatch "field identifier" "." other))
    if !fieldNames.contains name then
      throw (.placed (.refused ("unknown field `" ++ name ++ "`, expected " ++ oneOf fieldNames)
        "." key.mark))
    if seen.contains name then throw (.unplaced (.custom ("duplicate field `" ++ name ++ "`")))
    let c ← c.setField name (if aliased then "?" else name) value
    readEntries rest c (name :: seen)

/-- The settings a document's root gives over the defaults. An empty document, or an empty
plain scalar whatever its tag, is an empty mapping. -/
def ofNode : Node → Except Problem Config
  | .mapping mark entries => (readEntries entries {} []).mapError (·.place "." mark)
  | .void _ => .ok {}
  | node@(.scalar text style _ _) =>
    if text.isEmpty && style == .plain then .ok {} else .error (mismatch "struct Config" "." node)
  | node => .error (mismatch "struct Config" "." node)

/-- The settings a YAML text gives; only blanks give the defaults. -/
def ofYaml (text : String) : Except Problem Config :=
  if (Text.trim text).isEmpty then .ok {}
  else
    let doc := Document.read text
    match ofNode doc.root with
    | .error p => .error p
    | .ok c =>
      match doc.trailing with
      | some f => .error (.fault f)
      | none => if doc.more then .error .moreThanOneDocument else .ok c

/-- Reads a decimal 64-bit integer with an optional sign. -/
def parseI64? (s : String) : Option Int :=
  let (negative, digits) := match s.toList with
    | '+' :: rest => (false, rest)
    | '-' :: rest => (true, rest)
    | cs => (false, cs)
  if digits.isEmpty || !digits.all Char.isDigit then none
  else
    let n : Nat := digits.foldl (fun n d => n * 10 + (d.toNat - '0'.toNat)) 0
    let v : Int := if negative then -(n : Int) else n
    if -9223372036854775808 ≤ v && v ≤ 9223372036854775807 then some v else none

/-- Applies the environment: a non-empty database variable names the database, and a non-empty
threshold variable, trimmed, must be an integer. -/
def withEnv (c : Config) (lookup : String → Option String) : Except MigrationError Config := do
  let c := match lookup databaseVariable with
    | some db => if db.isEmpty then c else { c with database := db }
    | none => c
  match lookup thresholdVariable with
  | some raw =>
    if raw.isEmpty then pure c
    else
      match parseI64? (Text.trim raw) with
      | some n => pure { c with idThreshold := n }
      | none => throw (.config (thresholdVariable ++ " must be an integer, got '" ++ raw ++ "'"))
  | none => pure c

/-- Checks the threshold and the database path. -/
def validate (c : Config) : Except MigrationError Unit :=
  if c.idThreshold ≤ 1 then
    .error (.config ("id_threshold must be greater than 1, got " ++ toString c.idThreshold))
  else if c.database.isEmpty then .error (.config "database path cannot be empty")
  else .ok ()

/-- Whether the database is the in-memory one. -/
def isMemory (c : Config) : Bool := c.database == memory

/-- Where lock files go: the given directory; none for the in-memory database; else `locks`
beside the database file. -/
def lockDirectory? (c : Config) : Option String :=
  match c.lockDir with
  | some dir => some dir
  | none =>
    if c.isMemory then none
    else
      let parent := match parentPath? c.database with
        | some p => if p.isEmpty then "." else p
        | none => "."
      some (joinPath parent "locks")

/-- The settings as JSON, the lock directory left out when not given. -/
def toJson (c : Config) : Json :=
  .object <|
    [("database", .string c.database), ("id_threshold", Json.ofInt c.idThreshold),
      ("busy_timeout_ms", Json.ofInt c.busyTimeoutMs)] ++
    (match c.lockDir with
      | some dir => [("lock_dir", .string dir)]
      | none => [])

end Config

/-- Reads settings from a YAML text, applies the environment, and checks them. -/
def Config.resolve (yaml : Option String) (lookup : String → Option String) :
    Except MigrationError Config := do
  let c ← match yaml with
    | some text => (Config.ofYaml text).mapError fun p => .yaml p.message
    | none => pure {}
  let c ← c.withEnv lookup
  c.validate
  pure c

/-- The settings a run uses: those of the YAML text and the environment, checked, then with the
database the command line names, checked again. -/
def Config.forRun (yaml : Option String) (lookup : String → Option String)
    (database : Option String) : Except MigrationError Config := do
  let c ← Config.resolve yaml lookup
  let c := match database with
    | some db => { c with database := db }
    | none => c
  c.validate
  pure c

end ContactMigration.Settings
