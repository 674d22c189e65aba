import Rendezvous.Decimal.Shortest

/-!
# How a float is written

A `Layout` holds the decisions that the digits leave open: where positional notation begins and
ends, how an exponent looks, what stands for the values without digits.  The two layouts in use
differ only in those last words: `Layout.plain` writes floats in shown values, `Layout.json` in JSON.
-/

namespace Rendezvous.Decimal

/-- The decisions of a written form of floats. -/
structure Layout where
  /-- The least exponent of ten written positionally. -/
  positionalFrom : Int := -4
  /-- The first exponent of ten that is no longer written positionally. -/
  positionalBelow : Int := 16
  /-- The least number of digits of an exponent. -/
  exponentDigits : Nat := 2
  nan : String
  infinity : String

/-- Floats in shown values. -/
def Layout.plain : Layout := { nan := "nan", infinity := "inf" }

/-- Floats in JSON. -/
def Layout.json : Layout := { nan := "NaN", infinity := "Infinity" }

/-- Digits as text. -/
def digitsText (ds : List Nat) : String := String.ofList (ds.map fun d => Char.ofNat (48 + d))

/-- Digits and a decimal point; an integral value ends in `.0`. -/
def positional (d : Digits) : String :=
  if d.point ≤ 0 then
    "0." ++ digitsText (List.replicate (-d.point).toNat 0 ++ d.digits)
  else
    let n := d.point.toNat
    let whole := (d.digits.take n) ++ List.replicate (n - d.digits.length) 0
    let fraction := d.digits.drop n
    digitsText whole ++ "." ++ (if fraction.isEmpty then "0" else digitsText fraction)

/-- One digit, the others behind a point, and an exponent with a sign. -/
def scientific (layout : Layout) (d : Digits) : String :=
  let exponent := d.point - 1
  let written := toString exponent.natAbs
  let padded := String.ofList (List.replicate (layout.exponentDigits - written.length) '0') ++ written
  digitsText (d.digits.take 1)
    ++ (if d.digits.length ≤ 1 then "" else "." ++ digitsText (d.digits.drop 1))
    ++ (if exponent < 0 then "e-" else "e+") ++ padded

/-- The written form of a double. -/
def Layout.write (layout : Layout) (x : Float) : String :=
  match Binary.ofFloat x with
  | .nan => layout.nan
  | .infinite negative => (if negative then "-" else "") ++ layout.infinity
  | .finite negative m e =>
    let sign := if negative then "-" else ""
    if m == 0 then sign ++ "0.0"
    else
      let d := shortest m e
      let exponent := d.point - 1
      if layout.positionalFrom ≤ exponent && exponent < layout.positionalBelow
      then sign ++ positional d
      else sign ++ scientific layout d

end Rendezvous.Decimal
