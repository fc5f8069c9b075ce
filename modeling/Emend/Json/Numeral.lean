import Emend.Binary64.Shortest

/-!
# Numerals

A number in a JSON text is a numeral: a sign, the digits before the point, those after it,
and a power of ten. A numeral is kept as it is spelled, since what number it denotes is a
question only where one is wanted.

`Numeral.ofBinary64` spells a number by its shortest decimal: positionally, with at least
one digit after the point, as long as the first digit is not too far from the point, and
otherwise with an exponent.

`Numeral.toBinary64?` reads a numeral in two steps: the digits are gathered in sixty-four
bits, those that do not fit being dropped, and the result is then multiplied or divided by
a power of ten. Each step rounds, so a numeral of very many digits need not give the
number nearest to it. A numeral beyond all finite numbers has no value.
-/

namespace Emend

/-- A spelled number. The exponent is that of the power of ten it is multiplied by; no
digits mean that it is left out. -/
structure Numeral where
  negative : Bool
  whole : List Nat
  fraction : List Nat
  exponentNegative : Bool
  exponent : List Nat
deriving DecidableEq, Repr, Inhabited

namespace Numeral

/-! ## Spelling -/

/-- The numeral of an integer. -/
def ofNat (n : Nat) : Numeral :=
  { negative := false
    whole := (Nat.toDigits 10 n).map fun c => (digitValue? c).getD 0
    fraction := []
    exponentNegative := false
    exponent := [] }

/-- How numbers are spelled: the range of the exponent of the first digit in which no
power of ten is used. -/
structure Layout where
  plainFrom : Int
  plainBelow : Int

/-- Numbers are spelled without a power of ten from `0.00001` on and below ten to the
sixteenth. -/
def layout : Layout := ⟨-5, 16⟩

/-- The numeral of a decimal. -/
def ofDecimal (layout : Layout) (negative : Bool) (d : Decimal) : Numeral :=
  let e := d.leadingExponent
  let plain (whole fraction : List Nat) : Numeral := ⟨negative, whole, fraction, false, []⟩
  if layout.plainFrom ≤ e ∧ e < layout.plainBelow then
    if e < 0 then plain [0] (List.replicate (e.natAbs - 1) 0 ++ d.digits)
    else if d.digits.length ≤ e.toNat + 1 then
      plain (d.digits ++ List.replicate (e.toNat + 1 - d.digits.length) 0) [0]
    else plain (d.digits.take (e.toNat + 1)) (d.digits.drop (e.toNat + 1))
  else ⟨negative, d.digits.take 1, d.digits.drop 1, e < 0, (ofNat e.natAbs).whole⟩

/-- The numeral of a finite number. -/
def ofBinary64 (x : Binary64) : Numeral :=
  if x.magnitude = 0 then ⟨x.negative, [0], [0], false, []⟩
  else ofDecimal layout x.negative x.shortestDecimal

/-- Digits as characters. -/
def digitText (digits : List Nat) : List Char := digits.map hexDigit

/-- The numeral as text. -/
def text (n : Numeral) : List Char :=
  (if n.negative then ['-'] else []) ++ digitText n.whole ++
    (if n.fraction = [] then [] else '.' :: digitText n.fraction) ++
    (if n.exponent = [] then []
      else 'e' :: (if n.exponentNegative then '-' else '+') :: digitText n.exponent)

/-! ## Reading -/

/-- The digits before the point: a lone zero, or digits that do not start with one. -/
def wholePart? (cs : List Char) : Option (List Nat × List Char) :=
  match leadingDigits cs.length cs with
  | ([], _) => none
  | (0 :: _, _) => some ([0], cs.drop 1)
  | (digits, rest) => some (digits, rest)

/-- The digits after a point, of which there is at least one if there is a point. -/
def fractionPart? (cs : List Char) : Option (List Nat × List Char) :=
  match cs with
  | '.' :: cs =>
    match leadingDigits cs.length cs with
    | ([], _) => none
    | (digits, rest) => some (digits, rest)
  | cs => some ([], cs)

/-- The digits of an exponent and whether it is negative. -/
def exponentPart? (cs : List Char) : Option (Bool × List Nat × List Char) :=
  let unsigned (negative : Bool) (cs : List Char) : Option (Bool × List Nat × List Char) :=
    match leadingDigits cs.length cs with
    | ([], _) => none
    | (digits, rest) => some (negative, digits, rest)
  match cs with
  | 'e' :: '-' :: cs | 'E' :: '-' :: cs => unsigned true cs
  | 'e' :: '+' :: cs | 'E' :: '+' :: cs => unsigned false cs
  | 'e' :: cs | 'E' :: cs => unsigned false cs
  | cs => some (false, [], cs)

/-- The numeral that a text starts with after its sign, and what follows. -/
def readUnsigned? (negative : Bool) (cs : List Char) : Option (Numeral × List Char) := do
  let (whole, cs) ← wholePart? cs
  let (fraction, cs) ← fractionPart? cs
  let (exponentNegative, exponent, cs) ← exponentPart? cs
  some (⟨negative, whole, fraction, exponentNegative, exponent⟩, cs)

/-- The numeral that a text starts with, and what follows. -/
def read? (cs : List Char) : Option (Numeral × List Char) :=
  match cs with
  | '-' :: cs => readUnsigned? true cs
  | cs => readUnsigned? false cs

/-! ## Values -/

/-- The bound of the numbers that digits are gathered in. -/
def gatherLimit : Nat := Nat.pow 2 64

/-- The largest exponent that is taken in; a larger one is as good as infinite. -/
def exponentLimit : Nat := Nat.pow 2 31

/-- Digits appended to a number as long as it stays within the limit, and how many those
were. -/
def gather : Nat → List Nat → Nat × Nat
  | n, [] => (n, 0)
  | n, d :: ds =>
    if n * 10 + d < gatherLimit then
      let (m, count) := gather (n * 10 + d) ds
      (m, count + 1)
    else (n, 0)

/-- The largest power of ten below infinity. -/
def maxPower : Nat := 308

/-- A power of ten, rounded. -/
def power (e : Nat) : Binary64 := .ofNat (Nat.pow 10 e)

/-- A positive number divided by a power of ten. Beyond the largest finite power this
takes several steps, which end when nothing is left of the number. -/
def shrink (x : Binary64) (e : Nat) : Binary64 :=
  if e ≤ maxPower then x.div (power e)
  else if x.magnitude = 0 then x
  else shrink (x.div (power maxPower)) (e - maxPower)
termination_by e
decreasing_by simp only [maxPower] at *; omega

/-- A natural number of sixty-four bits times a power of ten, if that is finite. -/
def scaled? (n : Nat) (e : Int) : Option Binary64 :=
  let x := Binary64.ofNat n
  if e < 0 then some (shrink x e.natAbs)
  else if e ≤ maxPower then
    let y := x.mul (power e.toNat)
    if y.isFinite then some y else none
  else if n = 0 then some x
  else none

/-- The number that a numeral denotes, if it is finite. -/
def toBinary64? (n : Numeral) : Option Binary64 :=
  let (m, taken) := gather 0 n.whole
  let (m, takenAfter) := gather m n.fraction
  let place : Int := (n.whole.length - taken : Nat) - (takenAfter : Int)
  let exponent := ofDigits 10 n.exponent
  let positive? :=
    if exponent < exponentLimit then
      scaled? m (if n.exponentNegative then place - exponent else place + exponent)
    else if m ≠ 0 ∧ !n.exponentNegative then none
    else some (.zero false)
  positive?.map fun x => { x with negative := n.negative }

/-- The integer that a numeral denotes, if it is spelled as one that is not negative. -/
def toNat? (n : Numeral) : Option Nat :=
  if !n.negative && n.fraction.isEmpty && n.exponent.isEmpty then
    some (ofDigits 10 n.whole)
  else none

end Numeral

end Emend
