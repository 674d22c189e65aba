/-!
# Floats as exact dyadic numbers

A finite double is `± mantissa · 2 ^ exponent` with a mantissa below `2 ^ 53`; `Binary.ofFloat`
reads this off its 64 bits.  Comparing a float with an integer and printing a float both start from
this exact value, so neither ever rounds.
-/

namespace Rendezvous.Decimal

/-- What the bits of a double say. -/
inductive Binary where
  | nan
  | infinite (negative : Bool)
  | finite (negative : Bool) (mantissa : Nat) (exponent : Int)
  deriving Repr, DecidableEq

namespace Binary

/-- The value of 64 bits: sign, eleven bits of exponent, fifty-two bits of fraction. -/
def ofBits (bits : UInt64) : Binary :=
  let n := bits.toNat
  let negative := n / Nat.pow 2 63 == 1
  let biased : Nat := n / Nat.pow 2 52 % Nat.pow 2 11
  let fraction : Nat := n % Nat.pow 2 52
  if biased == 2047 then
    if fraction == 0 then .infinite negative else .nan
  else if biased == 0 then .finite negative fraction (-1074)
  else .finite negative (Nat.pow 2 52 + fraction) ((biased : Int) - 1075)

/-- The value of a double. -/
def ofFloat (x : Float) : Binary := ofBits x.toBits

end Binary

/-- The first integer past those of 64 bits. -/
def wordLimit : Int := Nat.pow 2 63

/-- The integer that a double is, if it is one. -/
def integer? (x : Float) : Option Int :=
  match Binary.ofFloat x with
  | .finite negative m e =>
    let magnitude : Option Nat :=
      if 0 ≤ e then some (m * Nat.pow 2 e.toNat)
      else if m % Nat.pow 2 (-e).toNat == 0 then some (m / Nat.pow 2 (-e).toNat) else none
    magnitude.map fun n => if negative then -(n : Int) else n
  | _ => none

/-- Compare an integer with a double by their exact values; nothing compares with NaN. -/
def compareInt? (n : Int) (x : Float) : Option Ordering :=
  match Binary.ofFloat x with
  | .nan => none
  | .infinite negative => some (if negative then .gt else .lt)
  | .finite negative m e =>
    let signed : Int := if negative then -(m : Int) else m
    if 0 ≤ e then some (compare n (signed * Nat.pow 2 e.toNat))
    else some (compare (n * Nat.pow 2 (-e).toNat) signed)

end Rendezvous.Decimal
