/-!
# Digits

Reading and writing of unsigned numbers: the value of a decimal or hexadecimal digit, the
longest run of digits at the start of a text, and the fixed-width notation used in times
and identifiers.
-/

namespace Emend

/-- The value of a decimal digit. -/
def digitValue? (c : Char) : Option Nat :=
  if '0' ≤ c ∧ c ≤ '9' then some (c.toNat - '0'.toNat) else none

/-- The value of a hexadecimal digit, in either case. -/
def hexValue? (c : Char) : Option Nat :=
  if '0' ≤ c ∧ c ≤ '9' then some (c.toNat - '0'.toNat)
  else if 'a' ≤ c ∧ c ≤ 'f' then some (c.toNat - 'a'.toNat + 10)
  else if 'A' ≤ c ∧ c ≤ 'F' then some (c.toNat - 'A'.toNat + 10)
  else none

/-- The digit of a value below sixteen, a small letter from ten on. -/
def hexDigit (n : Nat) : Char :=
  Char.ofNat (if n < 10 then '0'.toNat + n else 'a'.toNat + (n - 10))

/-- The number written by a list of digit values, most significant first. -/
def ofDigits (base : Nat) (digits : List Nat) : Nat :=
  digits.foldl (fun n d => n * base + d) 0

/-- The values of all characters as digits, if every one is a digit. -/
def allDigits? (value? : Char → Option Nat) (cs : List Char) : Option (List Nat) :=
  cs.mapM value?

/-- The values of the decimal digits a text starts with, at most `limit` of them, and what
follows. -/
def leadingDigits : Nat → List Char → List Nat × List Char
  | 0, cs => ([], cs)
  | _ + 1, [] => ([], [])
  | limit + 1, c :: cs =>
    match digitValue? c with
    | none => ([], c :: cs)
    | some d => let (ds, rest) := leadingDigits limit cs; (d :: ds, rest)

/-- The number a text starts with, of at least one and at most `limit` digits, and what
follows. -/
def leadingNumber? (limit : Nat) (cs : List Char) : Option (Nat × List Char) :=
  match leadingDigits limit cs with
  | ([], _) => none
  | (ds, rest) => some (ofDigits 10 ds, rest)

/-- A number in decimal digits, with zeros in front up to a width. -/
def paddedDecimal (width n : Nat) : List Char :=
  let ds := Nat.toDigits 10 n
  List.replicate (width - ds.length) '0' ++ ds

end Emend
