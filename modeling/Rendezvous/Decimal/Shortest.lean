import Rendezvous.Decimal.Binary

/-!
# The fewest decimal digits that read back

`shortest m e` are the fewest decimal digits whose value reads back as the double `m · 2 ^ e`, and
of those the nearest to it.  All arithmetic is exact: the double and the two borders of the interval
that rounds to it are fractions over one denominator, and a grid of `n` digits is tried for
`n = 1, 2, …, 17` through the two grid points next to the double.  A border belongs to the interval
exactly when the mantissa is even, as reading rounds a half to the even neighbour.
-/

namespace Rendezvous.Decimal

/-- A positive decimal number `0.d₁d₂… · 10 ^ point`, the first digit not zero. -/
structure Digits where
  digits : List Nat
  point : Int
  deriving Repr, DecidableEq

/-- How many decimal digits a number has; zero has one. -/
def digitCount (n : Nat) : Nat := (Nat.toDigits 10 n).length

/-- The exponent of ten of the first digit of `num / den`, for a positive fraction. -/
def leadingExponent (num den : Nat) : Int :=
  if den ≤ num then (digitCount (num / den) : Int) - 1
  else -(digitCount ((den + num - 1) / num - 1) : Int)

/-- The digits of `n`, without zeros at the end, with the decimal point before digit `point`. -/
def Digits.ofNat (n : Nat) (exponent : Int) : Digits :=
  let ds := (Nat.toDigits 10 n).map fun c => c.toNat - '0'.toNat
  { digits := (ds.reverse.dropWhile (· == 0)).reverse
    point := ds.length + exponent }

/-- The numbers that read back as one double: from `low` to `high` over `den`, the borders with them
if `closed`; the double itself is `num` over `den`. -/
structure Interval where
  low : Nat
  num : Nat
  high : Nat
  den : Nat
  closed : Bool

/-- The interval of `m · 2 ^ e`.  Below a power of two the doubles lie twice as close. -/
def Interval.ofBinary (m : Nat) (e : Int) : Interval :=
  let scale := if 0 ≤ e then Nat.pow 2 e.toNat else 1
  let den := if 0 ≤ e then 4 else 4 * Nat.pow 2 (-e).toNat
  let below := if m == Nat.pow 2 52 && -1074 < e then 1 else 2
  { low := (4 * m - below) * scale, num := 4 * m * scale, high := (4 * m + 2) * scale
    den, closed := m % 2 == 0 }

/-- Whether `d · 10 ^ k` lies in the interval. -/
def Interval.holds (i : Interval) (d : Nat) (k : Int) : Bool :=
  let (d, den) := if 0 ≤ k then (d * Nat.pow 10 k.toNat * i.den, 1) else (d * i.den, Nat.pow 10 (-k).toNat)
  if i.closed then i.low * den ≤ d && d ≤ i.high * den else i.low * den < d && d < i.high * den

/-- The grid point `d · 10 ^ k` in the interval that is nearest to the double, if there is one. -/
def Interval.pick? (i : Interval) (k : Int) : Option Nat :=
  let (num, den) := if 0 ≤ k then (i.num, i.den * Nat.pow 10 k.toNat) else (i.num * Nat.pow 10 (-k).toNat, i.den)
  let d := num / den
  match i.holds d k, i.holds (d + 1) k with
  | true, true =>
    let below := num - d * den
    let above := (d + 1) * den - num
    some (if below < above then d else if above < below then d + 1
      else if d % 2 == 0 then d else d + 1)
  | true, false => some d
  | false, true => some (d + 1)
  | false, false => none

/-- Try grids of `n`, `n + 1`, … digits, `fuel` of them; the first exponent of ten is `top`. -/
def Interval.search (i : Interval) (top : Int) : Nat → Nat → Digits
  | 0, n => Digits.ofNat (i.num * Nat.pow 10 n / i.den) (-(n : Int))
  | fuel + 1, n =>
    let k := top - n + 1
    match i.pick? k with
    | some d => Digits.ofNat d k
    | none => i.search top fuel (n + 1)

/-- The fewest digits that read back as the positive double `m · 2 ^ e`, the nearest of them. -/
def shortest (m : Nat) (e : Int) : Digits :=
  let i := Interval.ofBinary m e
  i.search (leadingExponent i.num i.den) 17 1

end Rendezvous.Decimal
