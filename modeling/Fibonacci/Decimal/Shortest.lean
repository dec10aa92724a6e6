/-
The fewest digits that identify a double.

The reals that round to a finite double form an interval: half the gap to the
neighbour on either side, the ends belonging to it exactly when the significand is
even. Among the decimals in that interval the one with the fewest digits is wanted,
and among those the nearest to the double.

All of it is exact. Scaled by four times the denominator, the double and the two ends
of its interval are naturals, and a point of a decimal grid lies in the interval by
two comparisons of naturals. If a grid has a point in the interval, one of the
double's two neighbours on the grid is such a point; so the search looks at these two
only, on finer and finer grids, and stops at the first hit.
-/
import Fibonacci.Decimal.Binary64
import Fibonacci.Decimal.Rounding

set_option autoImplicit false

namespace Fibonacci

/-- The number `coefficient * 10 ^ exponent`. -/
structure Decimal where
  /-- The digits, as one natural. -/
  coefficient : Nat
  /-- The power of ten of the last digit. -/
  exponent : Int
  deriving DecidableEq, Repr

/-- The same number without zeros at the end of its coefficient. -/
def Decimal.stripZeros (d : Decimal) : Decimal :=
  if h : d.coefficient ≠ 0 ∧ d.coefficient % 10 = 0 then
    Decimal.stripZeros ⟨d.coefficient / 10, d.exponent + 1⟩
  else
    d
termination_by d.coefficient
decreasing_by
  show d.coefficient / 10 < d.coefficient
  omega

namespace Binary64.Magnitude

/-! ## The interval of reals that round to a double -/

/-- A magnitude against the decimal grid of step `10 ^ step`: the grid point `point`
is at `point * den`, the magnitude at `4 * significand * unit`, and the ends of its
interval at `lower` and `upper`, all in one scale. -/
structure OnGrid where
  /-- The distance of two grid points. -/
  den : Nat
  /-- The magnitude. -/
  value : Nat
  /-- The lower end of the interval. -/
  lower : Nat
  /-- The upper end of the interval. -/
  upper : Nat
  /-- Whether the ends belong to the interval. -/
  closed : Bool

/-- Places a magnitude on a grid. -/
def onGrid (x : Magnitude) (step : Int) : OnGrid :=
  let unit := Nat.pow 2 x.exponent.toNat * Nat.pow 10 (-step).toNat
  { den := 4 * Nat.pow 2 (-x.exponent).toNat * Nat.pow 10 step.toNat
    value := 4 * x.significand * unit
    lower := (4 * x.significand - (if x.narrow then 1 else 2)) * unit
    upper := (4 * x.significand + 2) * unit
    closed := x.significand % 2 == 0 }

/-- Whether a grid point lies in the interval. -/
def OnGrid.contains (g : OnGrid) (point : Nat) : Bool :=
  if g.closed then decide (g.lower ≤ point * g.den ∧ point * g.den ≤ g.upper)
  else decide (g.lower < point * g.den ∧ point * g.den < g.upper)

/-- The grid point in the interval that is nearest to the magnitude, if there is one;
the two neighbours of the magnitude are the only candidates. -/
def OnGrid.select (tie : Decimal.Tie) (g : OnGrid) : Option Nat :=
  let below := g.value / g.den
  match g.contains below, g.contains (below + 1) with
  | true, true => some (Decimal.nearest tie g.value g.den)
  | true, false => some below
  | false, true => some (below + 1)
  | false, false => none

/-! ## The search -/

/-- Whether the magnitude is at least `10 ^ power`. -/
def atLeastTenPow (x : Magnitude) (power : Int) : Bool :=
  decide (Nat.pow 10 power.toNat * Nat.pow 2 (-x.exponent).toNat ≤
    x.significand * Nat.pow 2 x.exponent.toNat * Nat.pow 10 (-power).toNat)

/-- Raises an estimate of the leading power of ten while the next one still fits. -/
def raise (x : Magnitude) : Nat → Int → Int
  | 0, power => power
  | steps + 1, power =>
    if x.atLeastTenPow (power + 1) then raise x steps (power + 1) else power

/-- The power of ten of the leading digit of a magnitude other than zero. The binary
logarithm gives it up to two places, from below. -/
def leadingPower (x : Magnitude) : Int :=
  x.raise 5 (Int.fdiv ((x.significand.log2 + x.exponent) * 30103) 100000 - 1)

/-- The magnitude itself as a decimal, with every digit. -/
def exactDecimal (x : Magnitude) : Decimal :=
  ⟨x.significand * Nat.pow 2 x.exponent.toNat * Nat.pow 5 (-x.exponent).toNat,
    -(-x.exponent).toNat⟩

/-- The shortest decimal that rounds to the magnitude. Grids of one to seventeen
digits are tried, and seventeen digits tell any two doubles apart. -/
def shortest (tie : Decimal.Tie) (x : Magnitude) : Decimal :=
  if x.significand = 0 then
    ⟨0, 0⟩
  else
    let lead := x.leadingPower
    let found := (List.range 17).findSome? fun (more : Nat) =>
      ((x.onGrid (lead - more)).select tie).map fun point => Decimal.mk point (lead - more)
    (found.getD x.exactDecimal).stripZeros

end Binary64.Magnitude
end Fibonacci
