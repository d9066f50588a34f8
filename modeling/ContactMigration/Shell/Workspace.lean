import ContactMigration.Shell.Files
import ContactMigration.Settings.Path

/-!
# A working directory

A model of the file system the tool runs in: text files, database files, directories and the
null device, each under its names from the root. The working directory stands at `/tmp/work`,
and a path that does not start with `/` is read from there. The names `/`, `/dev`, `/dev/null`
and `/tmp` are always there. Paths are shown as the user wrote them, so the working directory's
own name never appears in anything printed.

## Walking a path

A path is walked as the operating system walks it, one name at a time:
- an empty name (from `//` or a trailing `/`) and `.` stay where the walk is;
- `..` goes up to the directory above; the root stays at itself;
- any other name is looked up in the directory the walk is at. A directory is entered. A file
  ends the walk if it is the last name; with anything after it, even a trailing `/`, the walk
  fails with "not a directory". A missing name fails with "not found", unless nothing but `/`
  follows it: then the walk ends at a missing last name, and whether a `/` followed it matters.

So `nope/../rec.json` fails when `nope` is missing, and `rec.json/` asks for a directory that a
file `rec.json` is not. A name longer than 255 bytes is too long when the walk reaches it, and a
path of 4096 bytes or more is too long before the walk starts. A path holding a NUL byte is
refused before anything else, as no file name can hold one.

## The operations

- Reading text: a text file gives its text and the null device nothing; a directory cannot be
  read, and a database file is not text.
- Making directories: make the directory; when the one above is missing, make that first, by
  the same rule, and try again. A directory already there is no failure.
- Creating a lock file: open the path for writing, creating an empty file at a missing last
  name. A directory, or a missing name followed by `/`, is refused as a directory.
- Opening a database: the database engine first makes a full path by names alone, adding one
  name at a time and dropping one for `..`, and looks at each name it adds: a file standing
  where a directory should be makes a path it cannot open. Then it opens the file at the full
  path. A missing file becomes a new database, and so does a file of at most one byte, as the
  engine reads a one-byte file as empty. Other text is not a database, and a directory or a
  place that cannot be reached cannot be opened. A name the engine adds that is longer than
  255 bytes, or a full path within 8 bytes of 4096, cannot be opened either. A new database needs
  its journal, the file named with `-journal` after it: when that name would be longer than 255
  bytes the database file is made but stays empty, and opening fails.
- The engine clears what an earlier run left beside a database it opens: the journal and the
  write-ahead log with its index (`-journal`, `-wal`, `-shm`). When the file is not a database it
  still clears the journal, and the log and its index when a log is there.
-/

namespace ContactMigration.Shell

open Store Settings

/-- What a name holds. -/
inductive Entry where
  | text (content : String)
  | database (store : Tables)
  | directory
  /-- The null device: it reads as nothing and takes every write. -/
  | sink

/-- The names of the working directory, from the root. -/
def home : List String := ["tmp", "work"]

/-- The entries every file system starts with, besides the root. -/
def baseEntries : List (List String × Entry) :=
  [(["dev"], .directory), (["dev", "null"], .sink), (["tmp"], .directory), (home, .directory)]

/-- The entries of a file system, by their names from the root. -/
structure Workspace where
  entries : List (List String × Entry) := baseEntries

/-- Where a walk along a path ends. -/
inductive Walk where
  /-- At an entry, a directory included, with its names. -/
  | reached (names : List String) (entry : Entry)
  /-- At a missing last name in a directory that exists; `slashed` when a `/` follows it. -/
  | missing (names : List String) (slashed : Bool)
  /-- Stopped on the way. -/
  | stopped (error : FileError)

namespace Workspace

/-- The entry at some names; the root is a directory. -/
def find (ws : Workspace) (names : List String) : Option Entry :=
  if names.isEmpty then some .directory else ws.entries.lookup names

/-- Sets the entry at some names. -/
def put (ws : Workspace) (names : List String) (e : Entry) : Workspace :=
  if ws.entries.any (·.1 == names) then
    { entries := ws.entries.map fun p => if p.1 == names then (names, e) else p }
  else { entries := ws.entries ++ [(names, e)] }

/-- Walks the names of a path from the directory at `dir`. -/
def walkFrom (ws : Workspace) : List String → List String → Walk
  | dir, [] => .reached dir .directory
  | dir, piece :: rest =>
    if piece.isEmpty || piece == "." then ws.walkFrom dir rest
    else if piece == ".." then ws.walkFrom dir.dropLast rest
    else if piece.utf8ByteSize > 255 then .stopped .nameTooLong
    else
      let here := dir ++ [piece]
      match ws.find here with
      | some .directory => ws.walkFrom here rest
      | some e => if rest.isEmpty then .reached here e else .stopped .notDirectory
      | none =>
        if rest.all (·.isEmpty) then .missing here (!rest.isEmpty) else .stopped .notFound

/-- The directory a path starts from: the root for an absolute path, else the working
directory. -/
def startOf (path : String) : List String :=
  if path.startsWith "/" then [] else home

/-- What is wrong with a path as a whole: a NUL byte in it, or 4096 bytes or more. -/
def pathProblem? (path : String) : Option FileError :=
  if path.contains '\x00' then some .nulInName
  else if path.utf8ByteSize ≥ 4096 then some .nameTooLong
  else none

/-- Walks a path. -/
def walk (ws : Workspace) (path : String) : Walk :=
  match pathProblem? path with
  | some e => .stopped e
  | none => ws.walkFrom (startOf path) (path.splitOn "/")

/-- Whether a path leads to a directory. -/
def isDirectory (ws : Workspace) (path : String) : Bool :=
  !path.isEmpty && ws.walk path matches .reached _ .directory

/-- Reads a file as text. -/
def readText (ws : Workspace) (path : String) : Except FileError String :=
  if path.isEmpty then .error .notFound
  else
    match ws.walk path with
    | .reached _ (.text content) => .ok content
    | .reached _ .sink => .ok ""
    | .reached _ .directory => .error .isDirectory
    | .reached _ (.database _) => .error .notText
    | .missing _ _ => .error .notFound
    | .stopped e => .error e

/-- Makes one directory, in a directory that exists. -/
def makeDirectory (ws : Workspace) (path : String) : Except FileError Workspace :=
  if path.isEmpty then .error .notFound
  else
    match ws.walk path with
    | .reached _ _ => .error .alreadyExists
    | .missing names _ => .ok (ws.put names .directory)
    | .stopped e => .error e

/-- Makes a directory, first making the missing ones above it; `fuel` bounds how many are
above. A failure is no failure when a directory is there after all. -/
def makeDirectoriesWith (ws : Workspace) : Nat → String → Except FileError Workspace
  | 0, _ => .ok ws
  | fuel + 1, path =>
    if path.isEmpty then .ok ws
    else
      match ws.makeDirectory path with
      | .ok ws' => .ok ws'
      | .error .notFound =>
        match parentPath? path with
        | none => .error (.other "failed to create whole tree")
        | some up =>
          match ws.makeDirectoriesWith fuel up with
          | .error e => .error e
          | .ok ws =>
            match ws.makeDirectory path with
            | .ok ws' => .ok ws'
            | .error e => if ws.isDirectory path then .ok ws else .error e
      | .error e => if ws.isDirectory path then .ok ws else .error e

/-- Makes a directory and every missing one above it. -/
def makeDirectories (ws : Workspace) (path : String) : Except FileError Workspace :=
  ws.makeDirectoriesWith (path.length + 1) path

/-- Creates an empty file when nothing is at the path. -/
def touch (ws : Workspace) (path : String) : Except FileError Workspace :=
  if path.isEmpty then .error .notFound
  else
    match ws.walk path with
    | .reached _ .directory => .error .isDirectory
    | .reached _ _ => .ok ws
    | .missing names slashed =>
      if slashed then .error .isDirectory else .ok (ws.put names (.text ""))
    | .stopped e => .error e

/-- The first failure on the way to some names: a missing name above them, or one that is not a
directory. -/
def approach (ws : Workspace) (names : List String) : Option FileError :=
  ((List.range names.length).drop 1).findSome? fun n =>
    match ws.find (names.take n) with
    | some .directory => none
    | some _ => some .notDirectory
    | none => some .notFound

/-- The full names the database engine makes of the names of a path from `names`: one name
added at a time, `..` dropping the last. None when a name it adds is longer than 255 bytes or
stands below a file. -/
def fullNames (ws : Workspace) : List String → List String → Option (List String)
  | names, [] => some names
  | names, piece :: rest =>
    if piece.isEmpty || piece == "." then ws.fullNames names rest
    else if piece == ".." then ws.fullNames names.dropLast rest
    else
      let names := names ++ [piece]
      if piece.utf8ByteSize > 255 || ws.approach names == some .notDirectory then none
      else ws.fullNames names rest

/-- The names the database engine opens for a path. -/
def databaseNames? (ws : Workspace) (path : String) : Option (List String) :=
  ws.fullNames (startOf path) (path.splitOn "/")

/-- Removes the entry at some names. -/
def remove (ws : Workspace) (names : List String) : Workspace :=
  { entries := ws.entries.filter (·.1 != names) }

/-- The names of a file beside the one at `names`, its name followed by `suffix`. -/
def beside (names : List String) (suffix : String) : List String :=
  names.dropLast ++ [names.getLastD "" ++ suffix]

/-- Removes the file beside the one at `names` named with `suffix`, if a file is there. -/
def clearBeside (ws : Workspace) (names : List String) (suffix : String) : Workspace :=
  match ws.find (beside names suffix) with
  | some (.text _) | some (.database _) => ws.remove (beside names suffix)
  | _ => ws

/-- Clears the journal, write-ahead log and log index beside a database file. -/
def clearCompanions (ws : Workspace) (names : List String) : Workspace :=
  ((ws.clearBeside names "-journal").clearBeside names "-wal").clearBeside names "-shm"

/-- Opens a database file, with its id sequences raised to `threshold - 1`: its tables, and the
workspace as the engine leaves it. -/
def openStore (ws : Workspace) (path : String) (threshold : Int) :
    Except StoreError Tables × Workspace :=
  let blank := ({} : Tables).seed (threshold - 1)
  match path.toList.findIdx? (· == '\x00') with
  | some i => (.error (.nulInPath (String.ofList (path.toList.take i)).utf8ByteSize), ws)
  | none =>
    match ws.databaseNames? path with
    | none => (.error (.cannotOpen path), ws)
    | some names =>
      let full := "/" ++ "/".intercalate names
      if full.utf8ByteSize + 8 > 4096 || (ws.approach names).isSome then
        (.error (.cannotOpen path), ws)
      else
        let fresh (ws : Workspace) : Except StoreError Tables × Workspace :=
          if (names.getLastD "").utf8ByteSize + 8 > 255 then (.error .cannotOpenJournal, ws)
          else (.ok blank, (ws.clearCompanions names).put names (.database blank))
        match ws.find names with
        | none => fresh (ws.put names (.text ""))
        | some .directory => (.error (.cannotOpen path), ws)
        | some .sink => (.ok blank, ws)
        | some (.text content) =>
          if content.utf8ByteSize ≤ 1 then fresh ws
          else
            let ws := ws.clearBeside names "-journal"
            let ws := if (ws.find (beside names "-wal")).isSome then
                (ws.clearBeside names "-wal").clearBeside names "-shm"
              else ws
            (.error .notADatabase, ws)
        | some (.database s) =>
          let s := s.seed (threshold - 1)
          (.ok s, (ws.clearCompanions names).put names (.database s))

/-- Writes the tables to the database file of a path; the null device keeps nothing. -/
def saveStore (ws : Workspace) (path : String) (s : Tables) : Workspace :=
  match ws.databaseNames? path with
  | some names => if ws.find names matches some .sink then ws else ws.put names (.database s)
  | none => ws

/-- Puts a text file at a path below the working directory, making the directories above it. -/
def withText (ws : Workspace) (path : String) (content : String) : Workspace :=
  let names := home ++ (path.splitOn "/").filter fun p => !p.isEmpty && p != "."
  let above := ((List.range names.length).drop (home.length + 1)).map names.take
  let ws := above.foldl (fun ws dir => if (ws.find dir).isSome then ws else ws.put dir .directory) ws
  ws.put names (.text content)

end Workspace

/-- Runs a workspace operation that may fail, keeping the workspace when it does. -/
def Workspace.attempt {α : Type} (change : Workspace → Except FileError (α × Workspace)) :
    StateM Workspace (Except FileError α) :=
  modifyGet fun ws =>
    match change ws with
    | .ok (a, ws') => (.ok a, ws')
    | .error e => (.error e, ws)

instance : Files (StateM Workspace) where
  readText path := do return (← get).readText path
  makeDirectories path := Workspace.attempt fun ws => (((), ·) <$> ws.makeDirectories path)
  openStore path threshold := modifyGet fun ws => ws.openStore path threshold
  saveStore path s := modify fun ws => ws.saveStore path s
  touch path := Workspace.attempt fun ws => (((), ·) <$> ws.touch path)

end ContactMigration.Shell
