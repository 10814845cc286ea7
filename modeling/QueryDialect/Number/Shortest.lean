import QueryDialect.Number.Binary64

/-!
# Shortest decimals

The reals nearest to one floating-point number form an interval around it. Its decimal is taken
from the coarsest grid of multiples of a power of ten that meets the interval, and is the nearest
point of that grid; halfway between two points it is the upper one.
-/
namespace QueryDialect.Number

/-- The number `coefficient * 10 ^ exponent`. -/
structure Decimal where
  coefficient : Nat
  exponent : Int
  deriving DecidableEq, Repr

/-- An interval around `center`; all three numbers count units of `2 ^ unit`. -/
structure RoundingInterval where
  low : Nat
  center : Nat
  high : Nat
  unit : Int
  closed : Bool
  deriving DecidableEq, Repr

/-- The reals that round to the magnitude of a finite number. Below a power of two the next number
is only half as far away, and the ends belong to the interval if the last bit is zero. -/
def Binary64.roundingInterval (x : Binary64) : RoundingInterval :=
  let m := x.significand
  { low := 4 * m - (if x.fraction = 0 ∧ 1 < x.exponentBits then 1 else 2)
    center := 4 * m
    high := 4 * m + 2
    unit := x.scale - 2
    closed := m % 2 == 0 }

namespace RoundingInterval

/-- The interval with its ends and a grid step brought to one common unit. -/
structure Scaled where
  low : Nat
  center : Nat
  high : Nat
  step : Nat
  closed : Bool

/-- Scales up whichever of the powers of two and ten has a negative exponent. -/
def scaled (i : RoundingInterval) (exponent : Int) : Scaled :=
  let factor := Nat.pow 2 i.unit.toNat * Nat.pow 10 (-exponent).toNat
  { low := i.low * factor
    center := i.center * factor
    high := i.high * factor
    step := Nat.pow 10 exponent.toNat * Nat.pow 2 (-i.unit).toNat
    closed := i.closed }

def Scaled.contains (s : Scaled) (n : Nat) : Bool :=
  let point := n * s.step
  if s.closed then s.low ≤ point && point ≤ s.high else s.low < point && point < s.high

/-- The grid point in the interval that is nearest to the center. -/
def Scaled.nearest? (s : Scaled) : Option Nat :=
  let below := s.center / s.step
  match s.contains below, s.contains (below + 1) with
  | true, true => some (if 2 * (s.center % s.step) < s.step then below else below + 1)
  | true, false => some below
  | false, true => some (below + 1)
  | false, false => none

def nearest? (i : RoundingInterval) (exponent : Int) : Option Decimal :=
  (i.scaled exponent).nearest?.map (⟨·, exponent⟩)

/-- No floating-point number reaches `10 ^ coarsest`. -/
def coarsest : Int := 309

/-- The number of grids from the coarsest one down to `10 ^ (-324)`, which is finer than the gap
between any two floating-point numbers. -/
def gridCount : Nat := 634

def shortest (i : RoundingInterval) : Decimal :=
  ((List.range gridCount).findSome? fun k : Nat => i.nearest? (coarsest - k)).getD ⟨0, 0⟩

end RoundingInterval

end QueryDialect.Number
