import PriceOverlay.Decimal.Exact
/-!
# The shortest decimal that reads back

A double stands for an interval of rationals: those that round to it. Its decimal text
has the fewest digits that any decimal inside the interval has, and of those decimals
it is the nearest to the double. The search walks the decimal grids from the coarsest
and tests the two grid points around the double.
-/
namespace PriceOverlay.Decimal

/-- Where a decimal lies exactly between two of equal length, the one to take. -/
inductive Tie where
  | up
  | even
  deriving DecidableEq, Repr

/-- The number `digits · 10 ^ exponent`. -/
structure Scientific where
  digits : Nat
  exponent : Int
  deriving DecidableEq, Repr

namespace Scientific

/-- The same number with no trailing zero digit. -/
def trim (s : Scientific) (fuel : Nat) : Scientific :=
  match fuel with
  | 0 => s
  | fuel + 1 =>
    if s.digits ≠ 0 ∧ s.digits % 10 = 0 then trim ⟨s.digits / 10, s.exponent + 1⟩ fuel else s

end Scientific

/-- The rationals that round to `mantissa · 2 ^ exponent`: those between `low` and
`high`, the ends among them exactly if the mantissa is even. -/
structure Rounding where
  value : Rat
  low : Rat
  high : Rat
  closed : Bool

namespace Rounding

/-- The gap below a power of two is half the gap above it, except at the least exponent. -/
def ofBinary (mantissa : Nat) (exponent : Int) : Rounding :=
  let unit := (2 : Rat) ^ (exponent - 2)
  let below := if mantissa = 0x10000000000000 ∧ -1074 < exponent then 1 else 2
  ⟨4 * mantissa * unit, (4 * mantissa - below) * unit, (4 * mantissa + 2) * unit,
    mantissa % 2 = 0⟩

def contains (r : Rounding) (q : Rat) : Bool :=
  if r.closed then decide (r.low ≤ q ∧ q ≤ r.high) else decide (r.low < q ∧ q < r.high)

/-- The grid point of step `10 ^ k` that reads back, if one of the two neighbours does. -/
def onGrid (r : Rounding) (tie : Tie) (k : Int) : Option Scientific :=
  let step := (10 : Rat) ^ k
  let d := (r.value / step).floor.toNat
  let below := r.contains (d * step) && d != 0
  let above := r.contains ((d + 1 : Nat) * step)
  match below, above with
  | false, false => none
  | true, false => some ⟨d, k⟩
  | false, true => some ⟨d + 1, k⟩
  | true, true =>
    let down := r.value - d * step
    let up := (d + 1 : Nat) * step - r.value
    if down < up then some ⟨d, k⟩
    else if up < down then some ⟨d + 1, k⟩
    else match tie with
      | .up => some ⟨d + 1, k⟩
      | .even => some (if d % 2 = 0 then ⟨d, k⟩ else ⟨d + 1, k⟩)

/-- The first hit on the grids `10 ^ k`, `10 ^ (k - 1)`, …; seventeen digits always hit,
so the grid after the last one tried is never needed. -/
def search (r : Rounding) (tie : Tie) : Nat → Int → Scientific
  | 0, k => ⟨(r.value / (10 : Rat) ^ k).floor.toNat, k⟩
  | fuel + 1, k =>
    match r.onGrid tie k with
    | some s => s
    | none => search r tie fuel (k - 1)

end Rounding

/-- The shortest decimal of the double `mantissa · 2 ^ exponent`. The estimate of its
leading digit's place is never too low, and a place too high only adds a grid without
a hit. -/
def shortest (tie : Tie) (mantissa : Nat) (exponent : Int) : Scientific :=
  let place := ((mantissa.log2 + exponent) * 30103).fdiv 100000 + 1
  let s := (Rounding.ofBinary mantissa exponent).search tie 21 place
  s.trim 20

end PriceOverlay.Decimal
