import ContactMigration.Shell.Run
import ContactMigration.Store.Snapshot
import ContactMigration.Json.Reader

/-!
# The `contact-migrate` executable

Runs the tool on the real working directory, environment and standard streams. A database file
holds a header line and then the store's snapshot; a file of at most one byte is a new database,
and a file of anything else is not a database.
-/

namespace ContactMigration.Shell

open Store

/-- Whether an error code is the system error number `n`, which the runtime may give negated
as a 32-bit number. -/
def isErrno (code : UInt32) (n : Nat) : Bool :=
  code.toNat == n || code.toNat + n == 4294967296

/-- The failure an operating-system error stands for. -/
def fileErrorOf (e : IO.Error) : FileError :=
  match e with
  | .noFileOrDirectory _ _ _ => .notFound
  | .alreadyExists _ _ _ => .alreadyExists
  | .permissionDenied _ _ _ => .denied
  | .inappropriateType _ code _ =>
    if isErrno code 21 then .isDirectory
    else if isErrno code 20 then .notDirectory
    else .other (toString e)
  | .invalidArgument _ code _ => if isErrno code 36 then .nameTooLong else .other (toString e)
  | other => .other (toString other)

/-- Runs a file operation, turning its failure into a `FileError`. -/
def attempt {α : Type} (act : IO α) : IO (Except FileError α) := do
  try
    return .ok (← act)
  catch e =>
    return .error (fileErrorOf e)

/-- The first line of a database file. -/
def storeHeader : String := "contact-migrate store\n"

/-- A store as the text of its database file. -/
def storeText (s : Tables) : String :=
  storeHeader ++ Json.render s.toSnapshot ++ "\n"

/-- The store a database file holds: none when it holds something else. -/
def storeOfBytes? (bytes : ByteArray) : Option Tables := do
  let text ← String.fromUTF8? bytes
  if !text.startsWith storeHeader then none
  else
    let body := String.ofList (text.toList.drop storeHeader.length)
    (Json.parse body).toOption.bind Tables.ofSnapshot?

/-- The path of the file beside a database named with `suffix`, as the engine names it. -/
def besidePath (path suffix : String) : String :=
  String.ofList (path.toList.reverse.dropWhile (· == '/')).reverse ++ suffix

/-- Removes a file if one is there; a directory stays. -/
def clearFile (path : String) : IO Unit := do
  let _ ← attempt (IO.FS.removeFile path)

/-- Whether a file can be opened for reading at a path. -/
def fileThere (path : String) : IO Bool := do
  return (← attempt (IO.FS.Handle.mk path .read)) matches .ok _

/-- Clears the journal, write-ahead log and log index an earlier run left beside a database. -/
def clearCompanions (path : String) : IO Unit := do
  clearFile (besidePath path "-journal")
  clearFile (besidePath path "-wal")
  clearFile (besidePath path "-shm")

/-- Whether the journal of a database at a path would have a name longer than 255 bytes. -/
def journalTooLong (path : String) : Bool :=
  ((path.splitOn "/").filter (!·.isEmpty)).getLastD "" |>.utf8ByteSize |> (· + 8 > 255)

instance : Files IO where
  readText path := do
    if path.contains '\x00' then return .error .nulInName
    match ← attempt (IO.FS.readBinFile path) with
    | .error e => return .error e
    | .ok bytes =>
      return match String.fromUTF8? bytes with
        | some text => .ok text
        | none => .error .notText
  makeDirectories path :=
    if path.contains '\x00' then pure (.error .nulInName) else attempt (IO.FS.createDirAll path)
  openStore path threshold := do
    match path.toList.findIdx? (· == '\x00') with
    | some i => return .error (.nulInPath (String.ofList (path.toList.take i)).utf8ByteSize)
    | none =>
      let fresh : IO (Except StoreError Tables) := do
        if journalTooLong path then return .error .cannotOpenJournal
        let s := ({} : Tables).seed (threshold - 1)
        clearCompanions path
        match ← attempt (IO.FS.writeFile path (storeText s)) with
        | .ok () => return .ok s
        | .error _ => return .error (.cannotOpen path)
      match ← attempt (IO.FS.readBinFile path) with
      | .ok bytes =>
        if bytes.size ≤ 1 then fresh
        else
          match storeOfBytes? bytes with
          | some s =>
            let s := s.seed (threshold - 1)
            clearCompanions path
            match ← attempt (IO.FS.writeFile path (storeText s)) with
            | .ok () => return .ok s
            | .error _ => return .error (.cannotOpen path)
          | none =>
            clearFile (besidePath path "-journal")
            if (← fileThere (besidePath path "-wal")) then
              clearFile (besidePath path "-wal")
              clearFile (besidePath path "-shm")
            return .error .notADatabase
      | .error .notFound =>
        if journalTooLong path then
          let _ ← attempt (IO.FS.writeFile path "")
          return .error .cannotOpenJournal
        fresh
      | .error _ => return .error (.cannotOpen path)
  saveStore path s := do
    let _ ← attempt (IO.FS.writeFile path (storeText s))
  touch path :=
    if path.contains '\x00' then pure (.error .nulInName)
    else attempt do
      let _ ← IO.FS.Handle.mk path .append

end ContactMigration.Shell

open ContactMigration ContactMigration.Shell

/-- Runs the tool once with the process's arguments, environment and standard streams. -/
def main (args : List String) : IO UInt32 := do
  let database ← IO.getEnv Settings.Config.databaseVariable
  let threshold ← IO.getEnv Settings.Config.thresholdVariable
  let env := fun (name : String) =>
    if name == Settings.Config.databaseVariable then database
    else if name == Settings.Config.thresholdVariable then threshold
    else none
  let stdin : IO String := do (← IO.getStdin).readToEnd
  let outcome ← runTool args env stdin
  let out ← IO.getStdout
  out.putStr outcome.stdout
  out.flush
  let err ← IO.getStderr
  err.putStr outcome.stderr
  match outcome.panic with
  | some message => err.putStr ("\nthread 'main' panicked:\n" ++ message ++ "\n")
  | none => pure ()
  err.flush
  return outcome.code.toUInt32
