import Emend.Timestamp

/-!
# Dates and times in TOML

A date, a time of day, or both, and then perhaps an offset from universal time. Dates and
times in a configuration are not computed with; they are read to the notation in which
they are written out, with `T` between date and time and without zeros at the end of the
fraction.
-/

namespace Emend

namespace Toml

/-- A number of exactly so many digits in a range, and what follows. -/
def fixedNumber? (width low high : Nat) (cs : List Char) : Option (Nat × List Char) :=
  match leadingDigits width cs with
  | (ds, rest) =>
    let n := ofDigits 10 ds
    if ds.length = width ∧ low ≤ n ∧ n ≤ high then some (n, rest) else none

/-- What follows a given character. -/
def after? (mark : Char) : List Char → Option (List Char)
  | c :: cs => if c = mark then some cs else none
  | [] => none

/-- The date that a text starts with, as it is written out. -/
def date? (cs : List Char) : Option (List Char × List Char) := do
  let (year, cs) ← fixedNumber? 4 0 9999 cs
  let (month, cs) ← fixedNumber? 2 1 12 (← after? '-' cs)
  let (day, cs) ← fixedNumber? 2 1 (daysInMonth year month) (← after? '-' cs)
  some (paddedDecimal 4 year ++ '-' :: paddedDecimal 2 month ++ '-' :: paddedDecimal 2 day, cs)

/-- The fraction of a second that a text starts with, as it is written out: nine digits at
most, and no zeros at its end. -/
def fraction? : List Char → Option (List Char × List Char)
  | '.' :: cs =>
    match leadingDigits cs.length cs with
    | ([], _) => none
    | (ds, rest) =>
      let kept := ((ds.take 9).reverse.dropWhile (· = 0)).reverse
      some (if kept = [] then [] else '.' :: kept.map hexDigit, rest)
  | cs => some ([], cs)

/-- The time of day that a text starts with, as it is written out. -/
def time? (cs : List Char) : Option (List Char × List Char) := do
  let (hour, cs) ← fixedNumber? 2 0 23 cs
  let (minute, cs) ← fixedNumber? 2 0 59 (← after? ':' cs)
  let (second, cs) ← fixedNumber? 2 0 60 (← after? ':' cs)
  let (fraction, cs) ← fraction? cs
  some (paddedDecimal 2 hour ++ ':' :: paddedDecimal 2 minute ++ ':' :: paddedDecimal 2 second ++
    fraction, cs)

/-- A signed offset, after its sign, as it is written out. The sign of a zero offset is
positive. -/
def signedOffset? (mark : Char) (cs : List Char) : Option (List Char × List Char) := do
  let (hour, cs) ← fixedNumber? 2 0 23 cs
  let (minute, cs) ← fixedNumber? 2 0 59 (← after? ':' cs)
  let mark := if hour = 0 ∧ minute = 0 then '+' else mark
  some (mark :: paddedDecimal 2 hour ++ ':' :: paddedDecimal 2 minute, cs)

/-- The offset that a text starts with, or nothing if there is none. -/
def offset? : List Char → Option (List Char × List Char)
  | 'Z' :: cs | 'z' :: cs => some (['Z'], cs)
  | '+' :: cs => signedOffset? '+' cs
  | '-' :: cs => signedOffset? '-' cs
  | cs => some ([], cs)

/-- The time of day and the offset that may follow a date. -/
def timeAndOffset? (cs : List Char) : Option (List Char × List Char) := do
  let (time, cs) ← time? cs
  let (offset, cs) ← offset? cs
  some ('T' :: time ++ offset, cs)

/-- The date, time or both that a text starts with, as it is written out. -/
def datetime? (cs : List Char) : Option (List Char × List Char) :=
  match date? cs with
  | none => time? cs
  | some (date, cs) =>
    match cs with
    | 'T' :: rest | 't' :: rest | ' ' :: rest =>
      match timeAndOffset? rest with
      | some (time, rest) => some (date ++ time, rest)
      | none => some (date, cs)
    | cs => some (date, cs)

end Toml

end Emend
