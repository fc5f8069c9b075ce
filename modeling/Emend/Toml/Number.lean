import Emend.Binary64.Shortest

/-!
# Numbers in TOML

Integers have sixty-four bits and are written in decimal with a sign, or in hexadecimal,
octal or binary without one. Floats have a fraction or an exponent or both, or are one of
the names `inf` and `nan`. Single underscores may stand between digits, and a decimal
number does not start with a zero unless that is all of its whole part.
-/

namespace Emend

namespace Toml

/-- The digits a text goes on with, with single underscores before some of them. -/
def moreDigits (value? : Char → Option Nat) : List Char → List Nat × List Char
  | [] => ([], [])
  | '_' :: c :: cs =>
    match value? c with
    | some d => let (ds, rest) := moreDigits value? cs; (d :: ds, rest)
    | none => ([], '_' :: c :: cs)
  | c :: cs =>
    match value? c with
    | some d => let (ds, rest) := moreDigits value? cs; (d :: ds, rest)
    | none => ([], c :: cs)

/-- The digits a text starts with, at least one. -/
def digits? (value? : Char → Option Nat) : List Char → Option (List Nat × List Char)
  | [] => none
  | c :: cs => (value? c).map fun d => let (ds, rest) := moreDigits value? cs; (d :: ds, rest)

/-- The value of a digit below a base. -/
def digitBelow? (base : Nat) (c : Char) : Option Nat := (hexValue? c).filter (· < base)

/-- A sign, if there is one, and what follows. -/
def sign : List Char → Bool × List Char
  | '-' :: cs => (true, cs)
  | '+' :: cs => (false, cs)
  | cs => (false, cs)

/-- The digits of a decimal integer. -/
def wholeDigits? (cs : List Char) : Option (List Nat × List Char) :=
  match digits? digitValue? cs with
  | some (0 :: _, _) => some ([0], cs.drop 1)
  | r => r

/-- An integer that fits sixty-four bits with a sign. -/
def integerOf? (negative : Bool) (n : Nat) : Option Int :=
  if negative then (if n ≤ Nat.pow 2 63 then some (-(n : Int)) else none)
  else if n < Nat.pow 2 63 then some n
  else none

/-- The integer in the given base that a text starts with. -/
def integerIn? (base : Nat) (cs : List Char) : Option (Int × List Char) := do
  let (ds, rest) ← digits? (digitBelow? base) cs
  some (← integerOf? false (ofDigits base ds), rest)

/-- The integer that a text starts with. -/
def integer? : List Char → Option (Int × List Char)
  | '0' :: 'x' :: cs => integerIn? 16 cs
  | '0' :: 'o' :: cs => integerIn? 8 cs
  | '0' :: 'b' :: cs => integerIn? 2 cs
  | cs => do
    let (negative, cs) := sign cs
    let (ds, rest) ← wholeDigits? cs
    some (← integerOf? negative (ofDigits 10 ds), rest)

/-- The exponent that a text starts with. -/
def exponent? : List Char → Option (Int × List Char)
  | 'e' :: cs | 'E' :: cs => do
    let (negative, cs) := sign cs
    let (ds, rest) ← digits? digitValue? cs
    let n : Int := ofDigits 10 ds
    some (if negative then -n else n, rest)
  | _ => none

/-- A float with the given digits before its fraction and exponent. -/
def floatAfter? (negative : Bool) (whole : List Nat) (cs : List Char) :
    Option (Binary64 × List Char) := do
  let (fraction, cs) ←
    match cs with
    | '.' :: cs => digits? digitValue? cs
    | cs => if (exponent? cs).isSome then some ([], cs) else none
  let (exponent, cs) := (exponent? cs).getD (0, cs)
  let x := Binary64.ofDecimal negative ⟨whole ++ fraction, exponent - fraction.length⟩
  if x = .infinity false then none else some (x, cs)

/-- The float that a text starts with. One that is too large to be finite is refused. -/
def float? (cs : List Char) : Option (Binary64 × List Char) :=
  let (negative, cs) := sign cs
  match cs with
  | 'i' :: 'n' :: 'f' :: cs => some (.infinity negative, cs)
  | 'n' :: 'a' :: 'n' :: cs => some (.notANumber, cs)
  | cs => do
    let (whole, cs) ← wholeDigits? cs
    floatAfter? negative whole cs

end Toml

end Emend
