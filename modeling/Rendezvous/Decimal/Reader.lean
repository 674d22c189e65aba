/-!
# Reading decimals

`digitsValue` reads a run of decimal digits; `toFloat` is the double nearest to a decimal fraction.
Exponents far outside the range of doubles are settled without computing the power of ten.
-/

namespace Rendezvous.Decimal

/-- Whether a character is one of the ten digits. -/
def isDigit (c : Char) : Bool := '0' ≤ c && c ≤ '9'

/-- The number that a run of digits names. -/
def digitsValue (cs : List Char) : Nat := cs.foldl (fun n c => 10 * n + (c.toNat - '0'.toNat)) 0

/-- The double nearest to `± mantissa · 10 ^ exponent`. -/
def toFloat (negative : Bool) (mantissa : Nat) (exponent : Int) : Float :=
  let size : Int := (Nat.toDigits 10 mantissa).length + exponent
  let magnitude : Float :=
    if mantissa == 0 || size < -330 then 0.0
    else if size > 310 then 1.0 / 0.0
    else if exponent < 0 then Float.ofScientific mantissa true exponent.natAbs
    else Float.ofScientific mantissa false exponent.natAbs
  if negative then -magnitude else magnitude

/-- The double nearest to an integer. -/
def ofInt (n : Int) : Float := toFloat (n < 0) n.natAbs 0

/-- The parts of a written decimal number: sign, digits before and behind the point, exponent. -/
structure Written where
  negative : Bool
  whole : List Char
  fraction : List Char
  exponent : Int

/-- The double nearest to a written number. -/
def Written.toFloat (w : Written) : Float :=
  Decimal.toFloat w.negative (digitsValue (w.whole ++ w.fraction))
    (w.exponent - w.fraction.length)

end Rendezvous.Decimal
