import Mathlib
import ContactMigration.Text.Blank

/-!
# Reading: steps of a reader and decimal digits

A reader is a computation in `Except`: a step that has succeeded goes on with its value, and a
bound computation that succeeds did so through a successful first step (`bind_eq_ok`).

The readers of dates and of JSON numbers both read a run of ASCII digits from the left, each step
multiplying what was read by ten and adding the next digit. `digitsValue` is that value, and the
digits that `Nat.toDigits` writes for a number read back to the number (`digitsValue_toDigits`),
zeros in front or not. A digit is never blank, so skipping blanks stops at it.
-/

namespace ContactMigration

/-! ## Steps of a reader -/

/-- A computation that has succeeded goes on with its value. -/
theorem ok_bind {ε α β : Type} (a : α) (f : α → Except ε β) : (Except.ok a >>= f) = f a := rfl

theorem bind_eq_ok {ε α β : Type} {x : Except ε α} {f : α → Except ε β} {b : β} :
    x >>= f = .ok b ↔ ∃ a, x = .ok a ∧ f a = .ok b := by
  cases x <;> simp [bind, Except.bind]

theorem map_eq_ok {ε α β : Type} {f : α → β} {x : Except ε α} {b : β} :
    f <$> x = .ok b ↔ ∃ a, x = .ok a ∧ f a = b := by
  cases x <;> simp [Functor.map, Except.map]

/-! ## Decimal digits -/

theorem isDigit_iff (c : Char) : c.isDigit = true ↔ 48 ≤ c.toNat ∧ c.toNat ≤ 57 := by
  simp only [Char.isDigit, Bool.and_eq_true, decide_eq_true_eq, UInt32.le_iff_toNat_le]
  rfl

theorem isBlank_of_isDigit {c : Char} (digit : c.isDigit = true) : Text.isBlank c = false := by
  rw [isDigit_iff] at digit
  simp only [Text.isBlank]
  grind

/-- The value of the decimal digits `ds` read after `value`. -/
def digitsValue (value : Nat) (ds : List Char) : Nat :=
  ds.foldl (fun v c => v * 10 + (c.toNat - 48)) value

theorem le_digitsValue (value : Nat) (ds : List Char) : value ≤ digitsValue value ds := by
  induction ds generalizing value with
  | nil => exact le_refl _
  | cons c ds ih =>
    calc value ≤ value * 10 + (c.toNat - 48) := by omega
      _ ≤ digitsValue (value * 10 + (c.toNat - 48)) ds := ih _

theorem digitsValue_toDigits (n : Nat) : digitsValue 0 (Nat.toDigits 10 n) = n := by
  induction n using Nat.strongRecOn with
  | ind n ih =>
    by_cases small : n < 10
    · rw [Nat.toDigits_of_lt_base small]
      simp [digitsValue, Nat.toNat_digitChar_sub_48_of_lt_ten small]
    · -- the last digit is written after the digits of `n / 10`
      rw [Nat.toDigits_of_base_le (by omega) (by omega)]
      have shorter := ih (n / 10) (by omega)
      simp only [digitsValue, List.foldl_append, List.foldl_cons, List.foldl_nil] at shorter ⊢
      rw [shorter, Nat.toNat_digitChar_sub_48_of_lt_ten (Nat.mod_lt n (by omega))]
      omega

theorem digitsValue_zeros (k : Nat) (ds : List Char) :
    digitsValue 0 (List.replicate k '0' ++ ds) = digitsValue 0 ds := by
  induction k with
  | zero => rfl
  | succ k ih => simpa [digitsValue, List.replicate_succ] using ih

end ContactMigration
