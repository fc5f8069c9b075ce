/-!
# Double-precision numbers

Confidences are binary floating-point numbers of sixty-four bits. They are kept here as a
sign and a *magnitude*, the other sixty-three bits read as a natural number. The
magnitudes are in the order of the values they stand for, with infinity after all finite
ones and the values that are not a number after infinity, so numbers are compared by
comparing integers.

Arithmetic is exact until it is rounded: a finite number is a fraction, `ofRatio` is the
number nearest to a fraction with ties to the even magnitude, and products and quotients
are those of fractions, rounded once.
-/

namespace Emend

/-- A floating-point number of sixty-four bits. -/
structure Binary64 where
  negative : Bool
  magnitude : Nat
  magnitude_lt : magnitude < Nat.pow 2 63
deriving DecidableEq, Repr

namespace Binary64

/-- The magnitude of infinity, at which the exponent is all ones. -/
def infinityMagnitude : Nat := 2047 * Nat.pow 2 52

/-- The number of a sign and a magnitude, infinite where the magnitude is too large for a
finite one. -/
def ofMagnitude (negative : Bool) (magnitude : Nat) : Binary64 :=
  ⟨negative, min magnitude infinityMagnitude, by
    have : infinityMagnitude < Nat.pow 2 63 := by decide
    exact Nat.lt_of_le_of_lt (Nat.min_le_right ..) this⟩

/-- Infinity of either sign. -/
def infinity (negative : Bool) : Binary64 := ofMagnitude negative infinityMagnitude

/-- A value that is not a number. -/
def notANumber : Binary64 := ⟨false, infinityMagnitude + Nat.pow 2 51, by decide⟩

/-- Zero of either sign. -/
def zero (negative : Bool) : Binary64 := ofMagnitude negative 0

instance : Inhabited Binary64 := ⟨zero false⟩

/-- Whether the value is not a number. -/
def isNaN (x : Binary64) : Bool := infinityMagnitude < x.magnitude

/-- Whether the value is a number other than an infinity. -/
def isFinite (x : Binary64) : Bool := x.magnitude < infinityMagnitude

/-! ## Order -/

/-- The place of a number among all numbers, both zeros having the same. -/
def rank (x : Binary64) : Int := if x.negative then -(x.magnitude : Int) else x.magnitude

/-- Whether one number is below another. What is not a number is neither below nor above
anything. -/
def below (x y : Binary64) : Bool := !x.isNaN && !y.isNaN && x.rank < y.rank

/-- Whether one number is below another or equal to it. -/
def atMost (x y : Binary64) : Bool := !x.isNaN && !y.isNaN && x.rank ≤ y.rank

/-! ## Numbers as fractions -/

/-- The integer factor of the value of a finite magnitude. -/
def significand (x : Binary64) : Nat :=
  if x.magnitude < Nat.pow 2 52 then x.magnitude else Nat.pow 2 52 + x.magnitude % Nat.pow 2 52

/-- The power of two that the significand is multiplied by, increased by 1074. -/
def scale (x : Binary64) : Nat := x.magnitude / Nat.pow 2 52 - 1

/-- The absolute value of a finite number: numerator and denominator. -/
def ratio (x : Binary64) : Nat × Nat := (x.significand * Nat.pow 2 x.scale, Nat.pow 2 1074)

/-- The integer nearest to a fraction, and the even one of two that are equally near. -/
def roundHalfEven (num den : Nat) : Nat :=
  let q := num / den
  let r := num % den
  if 2 * r < den ∨ (2 * r = den ∧ q % 2 = 0) then q else q + 1

/-- The least magnitude whose exponent is that of a fraction, divided by `2 ^ 52`: how
many times the fraction, measured in the least positive number, can be halved while it
keeps fifty-three bits. -/
def halvings (num den : Nat) : Nat := Nat.log2 (num * Nat.pow 2 1074 / den) - 52

/-- The number nearest to a fraction with positive denominator, the one of even magnitude
of two that are equally near, and infinity from half a unit beyond the largest finite
number. -/
def ofRatio (negative : Bool) (num den : Nat) : Binary64 :=
  let k := halvings num den
  ofMagnitude negative (k * Nat.pow 2 52 + roundHalfEven (num * Nat.pow 2 1074) (den * Nat.pow 2 k))

/-- The number nearest to a natural number. -/
def ofNat (n : Nat) : Binary64 := ofRatio false n 1

/-- The product of two finite numbers, rounded. -/
def mul (x y : Binary64) : Binary64 :=
  ofRatio (x.negative != y.negative) (x.ratio.1 * y.ratio.1) (x.ratio.2 * y.ratio.2)

/-- The quotient of two finite numbers, rounded; the divisor is not zero. -/
def div (x y : Binary64) : Binary64 :=
  ofRatio (x.negative != y.negative) (x.ratio.1 * y.ratio.2) (x.ratio.2 * y.ratio.1)

end Binary64

end Emend
