import Emend.Binary64.Basic
import Emend.Text.Digits

/-!
# The shortest decimal of a number

Every number is surrounded by an interval of reals that round to it. Its shortest decimal
is the one of fewest digits in that interval; of several, the one nearest to the number,
and of two equally near, the one with the even last digit.

Decimals of a given number of digits lie on a grid, and if any point of the grid is in the
interval then so is one of the two neighbours of the number on it. So the grids are tried
from the coarsest, with one digit, to the one with seventeen, which always has such a
point.
-/

namespace Emend

/-- The value of some decimal digits times a power of ten. -/
structure Decimal where
  digits : List Nat
  exponent : Int
deriving DecidableEq, Repr

namespace Decimal

/-- The exponent of the first digit, if this stood before the point. -/
def leadingExponent (d : Decimal) : Int := d.exponent + d.digits.length - 1

/-- The decimal of a number of units of a grid, without zeros at its end. -/
def ofUnits (units : Nat) (exponent : Int) : Decimal :=
  let ds := (Nat.toDigits 10 units).reverse
  let kept := ds.dropWhile (· = '0')
  ⟨kept.reverse.map fun c => (digitValue? c).getD 0, exponent + (ds.length - kept.length : Nat)⟩

end Decimal

namespace Binary64

/-- The interval of the reals that round to a positive number, in quarters of the distance
to the next larger number: the distances of its ends below and above the number, and
whether the ends belong to it. -/
structure RoundingInterval where
  below : Nat
  above : Nat
  closed : Bool
deriving DecidableEq, Repr

/-- The interval reaches half way to both neighbours. The lower neighbour of a power of
two is at half the distance. -/
def roundingInterval (x : Binary64) : RoundingInterval where
  below := if x.magnitude % Nat.pow 2 52 = 0 ∧ Nat.pow 2 53 ≤ x.magnitude then 1 else 2
  above := 2
  closed := x.magnitude % 2 = 0

/-- The exponent of the first decimal digit of a positive fraction. -/
def decimalExponent (num den : Nat) : Int :=
  if den ≤ num then ((Nat.toDigits 10 (num / den)).length : Int) - 1
  else
    let j := (Nat.toDigits 10 (den / num)).length
    if den ≤ num * Nat.pow 10 (j - 1) then -((j - 1 : Nat) : Int) else -(j : Int)

/-- Whether a number of units of a grid, of the given size as a fraction, is in the
interval of a number. -/
def readsBack (x : Binary64) (units unitNum unitDen : Nat) : Bool :=
  let i := x.roundingInterval
  let step := Nat.pow 2 x.scale
  let value := 4 * units * unitNum * Nat.pow 2 1074
  let low := (4 * x.significand - i.below) * step * unitDen
  let high := (4 * x.significand + i.above) * step * unitDen
  if i.closed then low ≤ value && value ≤ high else low < value && value < high

/-- The decimal of a number of digits that is in the interval of a positive number, if
there is one. -/
def decimalOfLength? (x : Binary64) (first : Int) (length : Nat) : Option Decimal :=
  let exponent := first - length + 1
  let unitNum := Nat.pow 10 exponent.toNat
  let unitDen := Nat.pow 10 (-exponent).toNat
  let (num, den) := (x.ratio.1 * unitDen, x.ratio.2 * unitNum)
  let floor := num / den
  let nearest := roundHalfEven num den
  let other := if nearest = floor then floor + 1 else floor
  if readsBack x nearest unitNum unitDen then some (.ofUnits nearest exponent)
  else if readsBack x other unitNum unitDen then some (.ofUnits other exponent)
  else none

/-- The number nearest to a decimal. One whose first digit is very far from the point is
infinite or zero, whatever its other digits are. -/
def ofDecimal (negative : Bool) (d : Decimal) : Binary64 :=
  let n := ofDigits 10 d.digits
  if n = 0 ∨ d.leadingExponent < -400 then zero negative
  else if 400 + (d.digits.length : Int) < d.leadingExponent then infinity negative
  else ofRatio negative (n * Nat.pow 10 d.exponent.toNat) (Nat.pow 10 (-d.exponent).toNat)

/-- The shortest decimal that rounds to the absolute value of a finite number other than
zero. -/
def shortestDecimal (x : Binary64) : Decimal :=
  let first := decimalExponent x.ratio.1 x.ratio.2
  ((List.range 17).findSome? fun n => x.decimalOfLength? first (n + 1)).getD ⟨[0], 0⟩

end Binary64

end Emend
