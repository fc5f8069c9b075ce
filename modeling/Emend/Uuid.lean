import Emend.Text.Digits

/-!
# Identifiers of commands

A command is identified by thirty-two hexadecimal digits. They can be written in a row, in
five groups joined by hyphens, and in groups within braces or after `urn:uuid:`; digits
may be in either case. There is one form in which they are written: groups, with small
letters.

A text is in groups exactly if grouping its digits gives the text back, which is how
`ofGrouped?` tells.
-/

namespace Emend

/-- An identifier: thirty-two hexadecimal digits. -/
structure Uuid where
  digits : List Nat
  length_digits : digits.length = 32
  digits_lt : ∀ d ∈ digits, d < 16
deriving DecidableEq, Repr

namespace Uuid

/-- Characters in groups of eight, four, four, four and the rest, joined by hyphens. -/
def group (cs : List Char) : List Char :=
  cs.take 8 ++ '-' :: (cs.drop 8).take 4 ++ '-' :: (cs.drop 12).take 4 ++
    '-' :: (cs.drop 16).take 4 ++ '-' :: cs.drop 20

/-- The identifier of the given digit values. -/
def ofDigits? (digits : List Nat) : Option Uuid :=
  if h : digits.length = 32 ∧ ∀ d ∈ digits, d < 16 then some ⟨digits, h.1, h.2⟩ else none

/-- The identifier written as digits in a row. -/
def ofPlain? (cs : List Char) : Option Uuid :=
  (allDigits? hexValue? cs).bind ofDigits?

/-- The identifier written in groups. -/
def ofGrouped? (cs : List Char) : Option Uuid :=
  let digits := cs.filter (· ≠ '-')
  if group digits = cs then ofPlain? digits else none

/-- What a text holds between a given beginning and end. -/
def between? (opening closing cs : List Char) : Option (List Char) :=
  let inner := (cs.drop opening.length).take (cs.length - opening.length - closing.length)
  if opening ++ inner ++ closing = cs then some inner else none

/-- Read an identifier in any of its forms. -/
def read? (s : String) : Option Uuid :=
  let cs := s.toList
  ofPlain? cs
    <|> ofGrouped? cs
    <|> (between? ['\x7b'] ['\x7d'] cs).bind ofGrouped?
    <|> (between? "urn:uuid:".toList [] cs).bind ofGrouped?

/-- The last hexadecimal digits of a number, most significant first. -/
def lastDigits (count n : Nat) : List Nat :=
  (List.range count).map fun i => n / Nat.pow 16 (count - 1 - i) % 16

/-- An identifier that starts with a time in milliseconds, so that later ones are larger,
and is otherwise made of two random numbers. The digits that say so are the thirteenth,
which is a seven, and the seventeenth, which is one of the four from eight on. -/
def ofTime (milliseconds random random' : Nat) : Uuid where
  digits := lastDigits 12 milliseconds ++ 7 :: lastDigits 3 random ++
    (8 + random' % 4) :: lastDigits 15 (random' / 4)
  length_digits := by simp [lastDigits]
  digits_lt := by
    intro d hd
    simp only [lastDigits, List.append_assoc, List.cons_append, List.mem_append, List.mem_cons,
      List.mem_map] at hd
    rcases hd with ⟨i, -, rfl⟩ | rfl | ⟨i, -, rfl⟩ | rfl | ⟨i, -, rfl⟩ <;> omega

/-- Write an identifier in groups. -/
def text (u : Uuid) : String := String.ofList (group (u.digits.map hexDigit))

end Uuid

end Emend
