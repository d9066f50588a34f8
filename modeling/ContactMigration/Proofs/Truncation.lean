import Mathlib
import ContactMigration.Text.Truncate

/-!
# Cutting text to a column

The listing prints names in columns of a fixed width. `truncate s n` keeps a text that fits as
it is and otherwise keeps as many leading characters as leave room for the `...` that marks the
cut. Characters are Unicode scalar values, so the kept part is a prefix of the text's characters
and no character is split.

Main statement: `truncate_fits_column`. A cut text is its first `n - 3` characters and the mark,
exactly `max n 3` characters long, and no text comes out longer than that.
-/

namespace ContactMigration.Text

variable {s : String} {n : Nat}

theorem truncate_of_length_le (fits : s.length ≤ n) : truncate s n = s :=
  if_pos fits

/-- A text longer than the column keeps its first `n - 3` characters, then the mark. -/
theorem toList_truncate_of_lt (long : n < s.length) :
    (truncate s n).toList = s.toList.take (n - 3) ++ "...".toList := by
  rw [truncate, if_neg (Nat.not_le_of_lt long), String.toList_append, String.toList_ofList]

/-- A cut text fills the column, or takes the three characters of the mark when the column is
narrower than that. -/
theorem length_truncate_of_lt (long : n < s.length) : (truncate s n).length = max n 3 := by
  have kept : (s.toList.take (n - 3)).length = n - 3 := by
    rw [List.length_take, String.length_toList]
    omega
  have mark : "...".toList.length = 3 := rfl
  rw [← String.length_toList, toList_truncate_of_lt long, List.length_append, kept, mark]
  omega

theorem length_truncate_le (s : String) (n : Nat) : (truncate s n).length ≤ max n 3 := by
  by_cases fits : s.length ≤ n
  · rw [truncate_of_length_le fits]
    omega
  · rw [length_truncate_of_lt (Nat.lt_of_not_le fits)]

/-- Text that fits the column is kept; longer text is cut to its first `n - 3` characters and
marked with `...`, exactly `max n 3` characters in all; and no text comes out longer than
`max n 3` characters. -/
theorem truncate_fits_column (s : String) (n : Nat) :
    (s.length ≤ n → truncate s n = s) ∧
      (n < s.length → (truncate s n).toList = s.toList.take (n - 3) ++ "...".toList ∧
        (truncate s n).length = max n 3) ∧
      (truncate s n).length ≤ max n 3 :=
  ⟨truncate_of_length_le, fun long => ⟨toList_truncate_of_lt long, length_truncate_of_lt long⟩,
    length_truncate_le s n⟩

/-- A short surname is kept, and an Irish surname with accented letters is cut after five
characters, counting each accented letter once. -/
theorem surnames_fit_column :
    truncate "Smith" 20 = "Smith" ∧
      (truncate "Ó Súilleabháin" 8).toList = "Ó Súilleabháin".toList.take 5 ++ "...".toList ∧
      (truncate "Ó Súilleabháin" 8).length = 8 :=
  ⟨(truncate_fits_column "Smith" 20).1 (by decide),
    (truncate_fits_column "Ó Súilleabháin" 8).2.1 (by decide)⟩

end ContactMigration.Text
