/-!
# Similar names

When a command line names something that does not exist, the names that do exist and look alike
are offered instead. Two names look alike when their Jaro similarity is above `0.7`.

The Jaro similarity of `a` and `b` counts the characters of `a` that match a character of `b`:
the same character, not yet matched, at most `max |a| |b| / 2 - 1` places away. With `m`
matches, and `t` half the number of places where the matched characters of the two sides, each
read in order, differ,

  `jaro a b = (m / |a| + m / |b| + (m - t) / m) / 3`,

and `0` when nothing matches. Two empty names are equal (`1`), and an empty name is like
nothing else (`0`). The value is computed in binary64, in this order of operations, so that the
cut at `0.7` falls where the same computation puts it.
-/

namespace ContactMigration.Shell

/-- The first position in `[low, high)` of `b` that holds `c` and is not taken. -/
def firstFree (b : Array Char) (taken : Array Bool) (c : Char) (low high : Nat) : Option Nat :=
  (List.range' low (high - low)).find? fun j => b[j]? == some c && taken[j]? == some false

/-- Matches the characters of `a` against `b` within `reach` places: the positions of `a` that
matched, in order, and the positions of `b` taken. -/
def matchAll (a b : Array Char) (reach : Nat) : List Nat × Array Bool :=
  let step (acc : List Nat × Array Bool) (i : Nat) : List Nat × Array Bool :=
    match a[i]? with
    | none => acc
    | some c =>
      match firstFree b acc.2 c (i - reach) (min b.size (i + reach + 1)) with
      | some j => (acc.1 ++ [i], acc.2.set! j true)
      | none => acc
  (List.range a.size).foldl step ([], Array.replicate b.size false)

/-- The number of places where two lists differ, compared position by position. -/
def mismatches : List Char → List Char → Nat
  | x :: xs, y :: ys => (if x == y then 0 else 1) + mismatches xs ys
  | _, _ => 0

/-- The Jaro similarity of two names. -/
def jaro (a b : String) : Float :=
  let xs := a.toList.toArray
  let ys := b.toList.toArray
  if xs.size == 0 && ys.size == 0 then 1.0
  else if xs.size == 0 || ys.size == 0 then 0.0
  else
    let reach := max xs.size ys.size / 2 - 1
    let (matchedA, takenB) := matchAll xs ys reach
    let fromA := matchedA.filterMap fun i => xs[i]?
    let fromB := ((List.range ys.size).filter fun j => takenB[j]? == some true).filterMap
      fun j => ys[j]?
    let m := matchedA.length
    if m == 0 then 0.0
    else
      let t := mismatches fromA fromB / 2
      (m.toFloat / xs.size.toFloat + m.toFloat / ys.size.toFloat +
        (m - t).toFloat / m.toFloat) / 3.0

/-- The names like `given`, least alike first; names equally alike keep their order. -/
def alike (given : String) (names : List String) : List String :=
  let scored := (names.map fun n => (jaro given n, n)).filter fun p => p.1 > 0.7
  (scored.mergeSort fun p q => decide (p.1 ≤ q.1)).map (·.2)

/-- The name most like `given`: the last of the most alike. -/
def closest? (given : String) (names : List String) : Option String :=
  (alike given names).getLast?

end ContactMigration.Shell
