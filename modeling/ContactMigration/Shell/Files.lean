import ContactMigration.Store.Basic

/-!
# Files the tool touches

The tool reads a configuration file and a record file as text, creates directories, opens and
writes its database file, and creates lock files. These operations are a class over the monad
the tool runs in, so that the same commands run on a model of a working directory and on the
real one.

A failed operation says why as the operating system does, for example
`No such file or directory (os error 2)`.
-/

namespace ContactMigration.Shell

open Store

/-- Why a file operation failed. -/
inductive FileError where
  | notFound
  | isDirectory
  | alreadyExists
  | notDirectory
  | denied
  /-- A name in the path is longer than 255 bytes, or the path than 4095. -/
  | nameTooLong
  /-- The path holds a NUL byte, which no file name can. -/
  | nulInName
  /-- A file read as text holds bytes that are not UTF-8. -/
  | notText
  /-- Any other failure, with the system's message. -/
  | other (message : String)
  deriving DecidableEq, Repr

/-- The operating system's message for a failure. -/
def FileError.message : FileError → String
  | .notFound => "No such file or directory (os error 2)"
  | .isDirectory => "Is a directory (os error 21)"
  | .alreadyExists => "File exists (os error 17)"
  | .notDirectory => "Not a directory (os error 20)"
  | .denied => "Permission denied (os error 13)"
  | .nameTooLong => "File name too long (os error 36)"
  | .nulInName => "file name contained an unexpected NUL byte"
  | .notText => "stream did not contain valid UTF-8"
  | .other message => message

/-- The file operations of the tool, in a monad `m`. Paths are as the user wrote them. -/
class Files (m : Type → Type) where
  /-- Reads a whole file as text. -/
  readText : String → m (Except FileError String)
  /-- Creates a directory and every missing directory above it. -/
  makeDirectories : String → m (Except FileError Unit)
  /-- Opens the database file at a path, creating it when missing, with the id sequences raised
  so that generated ids start at the threshold or above. -/
  openStore : String → Int → m (Except StoreError Tables)
  /-- Writes the tables back to the database file at a path. -/
  saveStore : String → Tables → m Unit
  /-- Creates an empty file at a path when nothing is there. -/
  touch : String → m (Except FileError Unit)

end ContactMigration.Shell
