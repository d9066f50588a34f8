import ContactMigration.Decimal.Shortest

/-!
Writing a float's shortest digits as text.

A `Layout` decides which decimal exponents are written with a point and which in scientific
form, and whether a positive exponent carries a `+`. Both layouts used here keep the shortest
digits, write an integral value positionally with `.0`, and write `-` before a negative value
(also before negative zero).
-/

namespace ContactMigration.Decimal

/-- Where positional notation ends and how an exponent is written. -/
structure Layout where
  /-- Whether a value whose leading digit has decimal exponent `k` is written positionally. -/
  positional : Int → Bool
  /-- Whether a positive exponent carries a `+`. -/
  plusSign : Bool

/-- The layout of floats in JSON error messages: positional for leading exponents from `-5`
to `15`, otherwise `1e+20` and `1e-7`. -/
def Layout.json : Layout :=
  ⟨fun k => -5 ≤ k && k ≤ 15, true⟩

/-- The layout of floats in plain display: always positional. -/
def Layout.display : Layout :=
  ⟨fun _ => true, false⟩

/-- `n` zeros. -/
def zeros (n : Nat) : String :=
  String.ofList (List.replicate n '0')

/-- The digits of `x` written with a point, `.0` after an integral value. -/
def Scientific.positional (x : Scientific) : String :=
  let digits := toString x.digits
  if x.exponent ≥ 0 then digits ++ zeros x.exponent.toNat ++ ".0"
  else
    let point : Int := (digits.length : Int) + x.exponent
    if point > 0 then
      String.ofList (digits.toList.take point.toNat) ++ "." ++
        String.ofList (digits.toList.drop point.toNat)
    else "0." ++ zeros (-point).toNat ++ digits

/-- The digits of `x` as `d.ddd` followed by `e` and the exponent of the leading digit. -/
def Scientific.scientific (x : Scientific) (plusSign : Bool) : String :=
  let digits := toString x.digits
  let lead : Int := x.exponent + digits.length - 1
  let mantissa :=
    match digits.toList with
    | [d] => String.singleton d
    | d :: rest => String.singleton d ++ "." ++ String.ofList rest
    | [] => "0"
  let sign := if lead < 0 then "-" else if plusSign then "+" else ""
  mantissa ++ "e" ++ sign ++ toString lead.natAbs

/-- A finite float as text in the given layout. -/
def Layout.render (layout : Layout) (f : Float) : String :=
  if f.isNaN then "NaN"
  else if f.isInf then (if f < 0 then "-inf" else "inf")
  else
    let x := Binary.ofFloat f
    let sign := if x.negative then "-" else ""
    let d := x.shortest
    if d.digits == 0 then sign ++ "0.0"
    else
      let lead : Int := d.exponent + (toString d.digits).length - 1
      if layout.positional lead then sign ++ d.positional
      else sign ++ d.scientific layout.plusSign

end ContactMigration.Decimal
