/-
The shortest decimal that reads back as a binary number.

The reals that round to `m · 2^q` form an interval around it, whose ends belong to it
when `m` is even.  For each count of digits in turn the two neighbours of the number on
that decimal grid are tried; the first grid that has one in the interval gives the answer,
the nearer of two, and the upper of two equally near.  If a point of a grid lies in the
interval then so does one of the two neighbours, so no shorter decimal is missed.
-/
import QueryMethods.Number.Binary

namespace QueryMethods

/-- The decimal `digits · 10^exponent`. -/
structure Decimal where
  digits : Nat
  exponent : Int
  deriving DecidableEq, Repr

/-- An interval of reals around a number, over one denominator. -/
structure RoundingInterval where
  low : Nat
  mid : Nat
  high : Nat
  den : Nat
  closed : Bool

/-- The reals that round to `m · 2^q` in a format. -/
def BinaryFormat.interval (f : BinaryFormat) (m : Nat) (q : Int) : RoundingInterval :=
  let below := if m = powerOfTwo f.fraction ∧ q ≠ f.least then 1 else 2
  let up := if q < 2 then 1 else powerOfTwo (q - 2).toNat
  let den := if q < 2 then powerOfTwo (2 - q).toNat else 1
  ⟨(4 * m - below) * up, 4 * m * up, (4 * m + 2) * up, den, m % 2 = 0⟩

/-- The largest `e` with `10^e ≤ num / den`. -/
def ratioLog10 (num den : Nat) : Int :=
  let guess : Int := ((Nat.toDigits 10 num).length : Int) - (Nat.toDigits 10 den).length
  let power := powerOfTen guess.natAbs
  let reached := if guess < 0 then den ≤ num * power else den * power ≤ num
  if reached then guess else guess - 1

namespace RoundingInterval

/-- Whether `point / scale` lies in the interval. -/
def holds (i : RoundingInterval) (point scale : Nat) : Bool :=
  let lower := i.low * scale
  let upper := i.high * scale
  let here := point * i.den
  (lower < here && here < upper) || (i.closed && (here == lower || here == upper))

/-- The decimal with its last digit at `10^exponent` that reads back, if there is one. -/
def onGrid (i : RoundingInterval) (exponent : Int) : Option Decimal :=
  let unit := if exponent < 0 then 1 else powerOfTen exponent.natAbs
  let scale := if exponent < 0 then powerOfTen exponent.natAbs else 1
  let down := i.mid * scale / (i.den * unit)
  let rest := i.mid * scale % (i.den * unit)
  let fitsDown := i.holds (down * unit) scale
  let fitsUp := i.holds ((down + 1) * unit) scale
  if fitsDown && (!fitsUp || 2 * rest < i.den * unit) then some ⟨down, exponent⟩
  else if fitsUp then some ⟨down + 1, exponent⟩
  else none

/-- The first of the grids, from coarse to fine, that has a decimal in the interval. -/
def shortest (i : RoundingInterval) : Option Decimal :=
  let top := ratioLog10 i.mid i.den
  (List.range 17).findSome? (fun k : Nat => i.onGrid (top - (k : Int)))

end RoundingInterval

namespace Decimal

/-- Drops final zeros that stand behind the point. -/
def dropZeros : Nat → Decimal → Decimal
  | 0, d => d
  | fuel + 1, d =>
    if d.exponent < 0 ∧ d.digits % 10 = 0 ∧ d.digits ≠ 0
    then dropZeros fuel ⟨d.digits / 10, d.exponent + 1⟩ else d

/-- The decimal in positional notation, with a point only where digits follow it. -/
def positional (d : Decimal) : String :=
  let d := dropZeros 20 d
  let digits := Nat.toDigits 10 d.digits
  if d.exponent < 0 then
    let places := d.exponent.natAbs
    let padded := List.replicate (places + 1 - digits.length) '0' ++ digits
    let whole := padded.length - places
    String.ofList (padded.take whole ++ '.' :: padded.drop whole)
  else String.ofList (digits ++ List.replicate d.exponent.natAbs '0')

end Decimal

/-- The shortest text that reads back as the number, never with an exponent. -/
def Double.text (x : Double) : String :=
  match x.read with
  | .notANumber => "NaN"
  | .infinite negative => if negative then "-inf" else "inf"
  | .finite negative m q =>
    let body := if m = 0 then "0"
      else ((BinaryFormat.double.interval m q).shortest.map Decimal.positional).getD ""
    if negative then "-" ++ body else body

end QueryMethods
