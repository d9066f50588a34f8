/-!
Exact numbers rounded to the nearest binary64 value.

`nearestOfNat n` is the float nearest to `n`, a tie going to the even mantissa; `pow10 k` is
the float nearest to `10^k`. These fix the table of powers that a reader multiplies by, so
that each entry is the correctly rounded power and not a product of rounded factors.
-/

namespace ContactMigration.Decimal

/-- The float nearest to `n`, a tie going to the even mantissa; beyond the largest float it
is infinite. -/
def nearestOfNat (n : Nat) : Float :=
  let width := n.log2 + 1
  if width ≤ 53 then n.toUInt64.toFloat
  else
    let shift := width - 53
    let kept := n / Nat.pow 2 shift
    let dropped := n % Nat.pow 2 shift
    let half := Nat.pow 2 (shift - 1)
    let up := dropped > half || (dropped == half && kept % 2 == 1)
    let rounded := if up then kept + 1 else kept
    rounded.toUInt64.toFloat.scaleB (shift : Int)

/-- The float nearest to `10^k`. -/
def pow10 (k : Nat) : Float :=
  nearestOfNat (Nat.pow 10 k)

/-- The float nearest to `digits * 10^exponent`, a tie going to the even mantissa. With `d`
digits the value lies in `[10^(d-1+exponent), 10^(d+exponent))`: from `10^309` up it is beyond
every float, and below `10^-325` it is under half the least subnormal `2^-1074`, so those two
cases are decided without computing the power. -/
def nearestOfScientific (digits : Nat) (exponent : Int) : Float :=
  let magnitude : Int := (toString digits).length + exponent
  if digits == 0 then 0.0
  else if magnitude > 309 then 1.0 / 0.0
  else if magnitude < -324 then 0.0
  else if exponent ≥ 0 then nearestOfNat (digits * Nat.pow 10 exponent.toNat)
  else
    -- scale the quotient so that it keeps at least 64 bits, then round once
    let den : Nat := Nat.pow 10 (-exponent).toNat
    let shift : Nat := den.log2 + 66
    let scaled := digits * Nat.pow 2 shift
    let quotient := scaled / den
    let sticky := if scaled % den == 0 then 0 else 1
    roundScaled (quotient * 2 + sticky) ((shift : Int) + 1)
where
  /-- The float nearest to `q * 2^(-shift)`, where the lowest bit of `q` is a sticky bit. -/
  roundScaled (q : Nat) (shift : Int) : Float :=
    let width := q.log2 + 1
    -- the exponent of the lowest kept bit, respecting the subnormal floor of 2^-1074
    let lowest : Int := max ((width : Int) - 53 - shift) (-1074)
    let drop : Int := lowest + shift
    if drop ≤ 0 then (q.toUInt64.toFloat).scaleB (-shift)
    else
      let d := drop.toNat
      let kept := q / Nat.pow 2 d
      let dropped := q % Nat.pow 2 d
      let half := Nat.pow 2 (d - 1)
      let up := dropped > half || (dropped == half && kept % 2 == 1)
      let rounded := if up then kept + 1 else kept
      rounded.toUInt64.toFloat.scaleB lowest

end ContactMigration.Decimal
