/-!
Shortening text for narrow columns.

`truncate s n` keeps a text of at most `n` characters as it is; a longer one keeps its first
`n - 3` characters (none when `n < 3`) followed by `...`. Characters are Unicode scalar values,
so a character is never split.
-/

namespace ContactMigration.Text

/-- A text cut to at most `n` characters, marking a cut with `...`. -/
def truncate (s : String) (n : Nat) : String :=
  if s.length ≤ n then s
  else String.ofList (s.toList.take (n - 3)) ++ "..."

end ContactMigration.Text
