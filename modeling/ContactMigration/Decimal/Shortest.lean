/-!
The shortest decimal digits of a binary64 value.

A finite float stands for every real that rounds to it: the interval around `m * 2^e` reaching
half-way to each neighbour, ends included exactly when `m` is even. `Binary.shortest` tries
decimal grids of 1, 2, …, 17 significant digits and takes, on the first grid that has a point
in the interval, that point; of two such points it takes the nearer one, and of two equally
near ones the one with the even last digit. All comparisons are exact, in natural numbers.
-/

namespace ContactMigration.Decimal

/-- A finite binary64 value: `(-1)^negative * mantissa * 2^exponent`. -/
structure Binary where
  negative : Bool
  mantissa : Nat
  exponent : Int
  /-- The gap to the next smaller float is half the gap to the next larger one: the mantissa
  is the least of a binade above the smallest. -/
  narrowBelow : Bool
  deriving Repr, DecidableEq

/-- Splits the bits of a float into sign, mantissa and exponent. Infinities and NaN give a
value with exponent `971`, above every finite one; callers test for them first. -/
def Binary.ofFloat (f : Float) : Binary :=
  let bits : Nat := f.toBits.toNat
  let negative := bits / 9223372036854775808 == 1
  let biased : Nat := (bits / 4503599627370496) % 2048
  let fraction : Nat := bits % 4503599627370496
  if biased == 0 then
    ⟨negative, fraction, -1074, false⟩
  else
    ⟨negative, fraction + 4503599627370496, (biased : Int) - 1075, fraction == 0 && biased > 1⟩

/-- Compares `a * 10^s` with `b * 2^e` exactly. -/
def compareScaled (a : Nat) (s : Int) (b : Nat) (e : Int) : Ordering :=
  compare (a * Nat.pow 10 s.toNat * Nat.pow 2 (-e).toNat)
    (b * Nat.pow 2 e.toNat * Nat.pow 10 (-s).toNat)

/-- A decimal number `digits * 10^exponent`. -/
structure Scientific where
  digits : Nat
  exponent : Int
  deriving Repr, DecidableEq

/-- Drops the trailing zeros of the digits, raising the exponent to match. -/
def Scientific.normalize (x : Scientific) : Scientific :=
  go 24 x.digits x.exponent
where
  /-- Strips up to `fuel` zeros; a binary64 value has fewer than 24 trailing decimal zeros in
  its shortest digits. -/
  go : Nat → Nat → Int → Scientific
    | 0, digits, exponent => ⟨digits, exponent⟩
    | fuel + 1, digits, exponent =>
      if digits != 0 && digits % 10 == 0 then go fuel (digits / 10) (exponent + 1)
      else ⟨digits, exponent⟩

namespace Binary

/-- Whether `d * 10^s` rounds to this value. -/
def admits (x : Binary) (d : Nat) (s : Int) : Bool :=
  let below := if x.narrowBelow then 1 else 2
  let low := compareScaled d s (4 * x.mantissa - below) (x.exponent - 2)
  let high := compareScaled d s (4 * x.mantissa + 2) (x.exponent - 2)
  if x.mantissa % 2 == 0 then low != .lt && high != .gt
  else low == .gt && high == .lt

/-- The exponent `k` with `10^k ≤ |x| < 10^(k+1)`, for a nonzero value. -/
def leadingExponent (x : Binary) : Int :=
  let estimate : Int := ((x.mantissa.log2 : Int) + x.exponent) * 30103 / 100000
  raise 4 (lower 4 estimate)
where
  /-- Lowers `k` while `10^k` exceeds the value. -/
  lower : Nat → Int → Int
    | 0, k => k
    | fuel + 1, k =>
      if compareScaled 1 k x.mantissa x.exponent == .gt then lower fuel (k - 1) else k
  /-- Raises `k` while `10^(k+1)` does not exceed the value. -/
  raise : Nat → Int → Int
    | 0, k => k
    | fuel + 1, k =>
      if compareScaled 1 (k + 1) x.mantissa x.exponent != .gt then raise fuel (k + 1) else k

/-- The value's digits on the grid `10^s`, rounded down: `⌊|x| / 10^s⌋`. -/
def gridFloor (x : Binary) (s : Int) : Nat :=
  (x.mantissa * Nat.pow 2 x.exponent.toNat * Nat.pow 10 (-s).toNat) /
    (Nat.pow 2 (-x.exponent).toNat * Nat.pow 10 s.toNat)

/-- The point of the grid `10^s` chosen for the value, if the grid has one that rounds to it. -/
def onGrid (x : Binary) (s : Int) : Option Nat :=
  let d := x.gridFloor s
  let lowerFits := x.admits d s
  let upperFits := x.admits (d + 1) s
  if lowerFits && upperFits then
    match compareScaled (2 * d + 1) s (2 * x.mantissa) x.exponent with
    | .lt => some (d + 1)
    | .gt => some d
    | .eq => if d % 2 == 0 then some d else some (d + 1)
  else if lowerFits then some d
  else if upperFits then some (d + 1)
  else none

/-- The shortest decimal that rounds to the magnitude of the value; zero gives `0`. -/
def shortest (x : Binary) : Scientific :=
  if x.mantissa == 0 then ⟨0, 0⟩
  else
    let k := x.leadingExponent
    search k 1 17
where
  /-- Tries grids of `n`, `n + 1`, … significant digits. -/
  search (k : Int) (n : Nat) : Nat → Scientific
    | 0 => (⟨x.gridFloor (k - 16), k - 16⟩ : Scientific).normalize
    | fuel + 1 =>
      let s := k - n + 1
      match x.onGrid s with
      | some d => (⟨d, s⟩ : Scientific).normalize
      | none => search k (n + 1) fuel

end Binary

end ContactMigration.Decimal
