import ContactMigration.Record.Basic
import ContactMigration.Json.Decode

/-!
Why a migration, a removal, a configuration or a command fails.

Each cause has a stable code and a message. A failure while saving or deleting one element is
wrapped once with the contact being migrated and the kind of element (`MigrationError.during`);
a failure that is already wrapped stays as it is, so the innermost context wins.
-/

namespace ContactMigration

/-- What the store refused. -/
inductive StoreError where
  | foreignKey
  | duplicateContact
  /-- A table has used its largest id. -/
  | full
  | notADatabase
  | cannotOpen (path : String)
  /-- A file the database keeps beside its own, its journal, cannot be opened. -/
  | cannotOpenJournal
  /-- The database path holds a NUL byte, at a byte position. -/
  | nulInPath (position : Nat)
  deriving DecidableEq, Repr, Inhabited

/-- The store's message. -/
def StoreError.message : StoreError → String
  | .foreignKey => "FOREIGN KEY constraint failed"
  | .duplicateContact => "UNIQUE constraint failed: contact.contact_id"
  | .full => "database or disk is full"
  | .notADatabase => "file is not a database"
  | .cannotOpen path => "unable to open database file: " ++ path
  | .cannotOpenJournal => "unable to open database file"
  | .nulInPath position => "nul byte found in provided data at position: " ++ toString position

/-- Why an operation failed. -/
inductive MigrationError where
  | contactNotFound (id : Int)
  | sourceIdOutOfRange (kind : ElementKind) (id : Int) (threshold : Int)
  | inProgress (id : Int)
  /-- A save or delete failed while migrating or removing a contact. -/
  | failed (contactId : Int) (kind : ElementKind) (cause : MigrationError)
  | config (message : String)
  | io (message : String)
  | json (error : Json.DecodeError)
  | yaml (message : String)
  | store (error : StoreError)
  deriving Inhabited

namespace MigrationError

/-- The stable code of a failure. -/
def code : MigrationError → String
  | .contactNotFound _ => "contact_not_found"
  | .sourceIdOutOfRange _ _ _ => "source_id_out_of_range"
  | .inProgress _ => "migration_in_progress"
  | .failed _ _ _ => "migration_failed"
  | .config _ => "invalid_config"
  | .io _ => "io_error"
  | .json _ => "json_error"
  | .yaml _ => "yaml_error"
  | .store _ => "db_error"

/-- The message of a failure. -/
def message : MigrationError → String
  | .contactNotFound id => "contact " ++ toString id ++ " not found"
  | .sourceIdOutOfRange kind id threshold =>
    kind.name ++ " source id " ++ toString id ++
      " is outside the migrated id space (must be below " ++ toString threshold ++ ")"
  | .inProgress id => "contact " ++ toString id ++ " is already being migrated by another process"
  | .failed contactId kind cause =>
    "migration of contact " ++ toString contactId ++ " failed at " ++ kind.name ++ ": " ++
      cause.message
  | .config text => "invalid configuration: " ++ text
  | .io text => "io error: " ++ text
  | .json error => "json error: " ++ error.message
  | .yaml text => "yaml error: " ++ text
  | .store error => "database error: " ++ error.message

/-- Wraps a failure with the contact and the kind of element being saved, unless it is
wrapped already. -/
def during (contactId : Int) (kind : ElementKind) : MigrationError → MigrationError
  | e@(.failed _ _ _) => e
  | e => .failed contactId kind e

end MigrationError

end ContactMigration
