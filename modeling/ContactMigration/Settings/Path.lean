/-!
# Path names

The parent of a path name and joining a relative name onto one, on `/`-separated names.

A path is read as components: an optional root `/`, an optional leading `.`, then names
separated by one or more `/`. A `.` after the start is skipped. The parent drops the last
component, and any `/` or `.` left dangling before it. The root and the leading `.` have no
parent component of their own: the root has no parent at all, and a lone `.` has the empty
parent.
-/

namespace ContactMigration.Settings

/-- The characters before the components: the root `/`, or a leading `.` that is a component of
its own. -/
def pathLead (cs : List Char) : Nat :=
  if cs.head? == some '/' then 1
  else if cs == ['.'] || cs.take 2 == ['.', '/'] then 1
  else 0

/-- Splits a component list at its last `/`: what comes before it and the last component. -/
def splitLast (body : List Char) : List Char × List Char :=
  let rev := body.reverse
  let last := rev.takeWhile (· != '/')
  let before := rev.dropWhile (· != '/')
  ((before.drop 1).reverse, last.reverse)

/-- Whether a component is skipped: empty, or `.`. -/
def skippedComponent (comp : List Char) : Bool :=
  comp.isEmpty || comp == ['.']

/-- Drops trailing empty and `.` components. -/
def trimTrailing (lead : List Char) : Nat → List Char → List Char
  | 0, body => lead ++ body
  | fuel + 1, body =>
    if body.isEmpty then lead
    else
      let (before, last) := splitLast body
      if skippedComponent last && before.length < body.length then trimTrailing lead fuel before
      else lead ++ body

/-- The parent of a path: none for the root and for the empty path, the empty path for a single
relative component. -/
def parentPath? (p : String) : Option String :=
  let cs := p.toList
  let n := pathLead cs
  let lead := cs.take n
  let rec back : Nat → List Char → Option String
    | 0, _ => none
    | fuel + 1, body =>
      if body.isEmpty then
        if cs.head? == some '/' then none
        else if n == 1 then some ""
        else none
      else
        let (before, last) := splitLast body
        if skippedComponent last then back fuel before
        else some (String.ofList (trimTrailing lead (before.length + 1) before))
  back (cs.length + 1) (cs.drop n)

/-- Joins a relative name onto a path, adding a `/` unless the path is empty or ends with one. -/
def joinPath (base name : String) : String :=
  if base.isEmpty || base.endsWith "/" then base ++ name else base ++ "/" ++ name

end ContactMigration.Settings
