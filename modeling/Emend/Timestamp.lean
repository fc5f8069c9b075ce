import Emend.Text.Blank
import Emend.Text.Digits

/-!
# Points in time

A timestamp is a date and a time of day in universal time, to the nanosecond, with a leap
second written as a second sixty. It is read from the notation
`2024-06-14T03:02:03.5+02:00` and brought to universal time by taking the offset off,
which moves the date by at most one day. It is written with `Z` for the offset and with
the fewest of no, three, six or nine decimals that lose nothing.

The reader is forgiving about spacing and digits: blanks may stand before a number, before
the `-` and `:` between numbers and before the offset, a month or an hour may have one
digit, and a year outside the four digits takes a sign.
-/

namespace Emend

/-- Whether a year of the Gregorian calendar has a 29th of February. -/
def isLeapYear (year : Int) : Bool :=
  year % 4 = 0 && (year % 100 ≠ 0 || year % 400 = 0)

/-- The number of days of a month, none if there is no such month. -/
def daysInMonth (year : Int) (month : Nat) : Nat :=
  if month = 2 then (if isLeapYear year then 29 else 28)
  else if month = 4 ∨ month = 6 ∨ month = 9 ∨ month = 11 then 30
  else if 1 ≤ month ∧ month ≤ 12 then 31
  else 0

/-- The first year of the calendar. -/
def firstYear : Int := -262143

/-- The last year of the calendar. -/
def lastYear : Int := 262142

/-- A date of the calendar. -/
structure Date where
  year : Int
  month : Nat
  day : Nat
  year_mem : firstYear ≤ year ∧ year ≤ lastYear
  day_mem : 1 ≤ day ∧ day ≤ daysInMonth year month
deriving DecidableEq, Repr

namespace Date

/-- The date with the given numbers, if there is one. -/
def of? (year : Int) (month day : Nat) : Option Date :=
  if h : (firstYear ≤ year ∧ year ≤ lastYear) ∧ (1 ≤ day ∧ day ≤ daysInMonth year month) then
    some ⟨year, month, day, h.1, h.2⟩
  else none

/-- The day after, unless the calendar ends. -/
def next? (d : Date) : Option Date :=
  of? d.year d.month (d.day + 1) <|> of? d.year (d.month + 1) 1 <|> of? (d.year + 1) 1 1

/-- The day before, unless the calendar begins. -/
def previous? (d : Date) : Option Date :=
  if 1 < d.day then of? d.year d.month (d.day - 1)
  else if 1 < d.month then of? d.year (d.month - 1) (daysInMonth d.year (d.month - 1))
  else of? (d.year - 1) 12 31

/-- The date a number of days after the first day of 1970. Years are counted from March,
so that the day that not every year has is the last one; four hundred of them have 146097
days, which repeat. -/
def ofDays? (days : Int) : Option Date :=
  let fromMarch := days + 719468
  let era := fromMarch / 146097
  let dayOfEra := fromMarch % 146097
  let yearOfEra := (dayOfEra - dayOfEra / 1460 + dayOfEra / 36524 - dayOfEra / 146096) / 365
  let dayOfYear := (dayOfEra - (365 * yearOfEra + yearOfEra / 4 - yearOfEra / 100)).toNat
  let month := (5 * dayOfYear + 2) / 153
  let day := dayOfYear - (153 * month + 2) / 5 + 1
  let year := yearOfEra + era * 400
  if month < 10 then of? year (month + 3) day else of? (year + 1) (month - 9) day

end Date

/-- A point in time: a date and a time of day in universal time. -/
structure Timestamp where
  date : Date
  hour : Nat
  minute : Nat
  second : Nat
  nano : Nat
  hour_lt : hour < 24
  minute_lt : minute < 60
  second_le : second ≤ 60
  nano_lt : nano < 1000000000
deriving DecidableEq, Repr

namespace Timestamp

/-- The point in time of a date and a time of day, if there is one. -/
def of? (date : Date) (hour minute second nano : Nat) : Option Timestamp :=
  if h : (hour < 24 ∧ minute < 60) ∧ (second ≤ 60 ∧ nano < 1000000000) then
    some ⟨date, hour, minute, second, nano, h.1.1, h.1.2, h.2.1, h.2.2⟩
  else none

/-- The point in time a number of minutes earlier, for less than a day. -/
def minutesEarlier? (t : Timestamp) (minutes : Int) : Option Timestamp :=
  let total : Int := t.hour * 60 + t.minute - minutes
  let date? :=
    if total < 0 then t.date.previous?
    else if 1440 ≤ total then t.date.next?
    else some t.date
  let minuteOfDay := (total % 1440).toNat
  date?.bind fun date => of? date (minuteOfDay / 60) (minuteOfDay % 60) t.second t.nano

/-- The point in time a number of nanoseconds after the beginning of 1970. -/
def ofNanoseconds? (n : Int) : Option Timestamp :=
  let seconds := n / 1000000000
  let secondOfDay := (seconds % 86400).toNat
  (Date.ofDays? (seconds / 86400)).bind fun date =>
    of? date (secondOfDay / 3600) (secondOfDay / 60 % 60) (secondOfDay % 60) (n % 1000000000).toNat

/-! ## Reading -/

/-- What follows a given character, after blanks. -/
def afterMark? (mark : Char) (cs : List Char) : Option (List Char) :=
  match trimStart cs with
  | c :: rest => if c = mark then some rest else none
  | [] => none

/-- The year a text starts with, after blanks: at most four digits, or any number of
digits after a sign. -/
def readYear? (cs : List Char) : Option (Int × List Char) :=
  match trimStart cs with
  | '-' :: rest => (leadingNumber? rest.length rest).map fun (n, rest) => (-(n : Int), rest)
  | '+' :: rest => (leadingNumber? rest.length rest).map fun (n, rest) => ((n : Int), rest)
  | cs => (leadingNumber? 4 cs).map fun (n, rest) => ((n : Int), rest)

/-- The number of one or two digits a text starts with, after blanks. -/
def readField? (cs : List Char) : Option (Nat × List Char) := leadingNumber? 2 (trimStart cs)

/-- The nanoseconds a text starts with after a point; further digits do not count. -/
def readFraction? (cs : List Char) : Option (Nat × List Char) :=
  match cs with
  | '.' :: rest =>
    match leadingDigits 9 rest with
    | ([], _) => none
    | (ds, rest) =>
      some (ofDigits 10 ds * Nat.pow 10 (9 - ds.length),
        rest.dropWhile (fun c => (digitValue? c).isSome))
  | _ => some (0, cs)

/-- The two digits a text starts with. -/
def twoDigits? (cs : List Char) : Option (Nat × List Char) :=
  match leadingDigits 2 cs with
  | ([a, b], rest) => some (10 * a + b, rest)
  | _ => none

/-- What follows the letters `UTC`, in either case, if a text starts with them. -/
def afterUtc? (cs : List Char) : Option (List Char) :=
  if (cs.take 3).map Char.toUpper = ['U', 'T', 'C'] then some (cs.drop 3) else none

/-- The offset in minutes after its sign: hours, and minutes below sixty after any colons
and blanks. -/
def readOffsetSize? (cs : List Char) : Option (Nat × List Char) := do
  let (hours, rest) ← twoDigits? cs
  let (minutes, rest) ← twoDigits? (rest.dropWhile fun c => c = ':' || isBlank c)
  if hours < 24 ∧ minutes < 60 then some (hours * 60 + minutes, rest) else none

/-- The offset in minutes a text starts with: `UTC`, `Z`, or a signed size. -/
def readOffset? (cs : List Char) : Option (Int × List Char) :=
  match afterUtc? cs with
  | some rest => some (0, rest)
  | none =>
    match cs with
    | 'Z' :: rest | 'z' :: rest => some (0, rest)
    | '+' :: rest => (readOffsetSize? rest).map fun (n, rest) => ((n : Int), rest)
    | '-' :: rest | '−' :: rest => (readOffsetSize? rest).map fun (n, rest) => (-(n : Int), rest)
    | _ => none

/-- The date a text starts with. -/
def readDate? (cs : List Char) : Option (Date × List Char) := do
  let (year, cs) ← readYear? cs
  let (month, cs) ← readField? (← afterMark? '-' cs)
  let (day, cs) ← readField? (← afterMark? '-' cs)
  let date ← Date.of? year month day
  some (date, cs)

/-- What follows the letter or space between date and time. -/
def afterSeparator? : List Char → Option (List Char)
  | 'T' :: cs | 't' :: cs | ' ' :: cs => some cs
  | _ => none

/-- Read a point in time. -/
def read? (s : String) : Option Timestamp := do
  let (date, cs) ← readDate? s.toList
  let (hour, cs) ← readField? (← afterSeparator? cs)
  let (minute, cs) ← readField? (← afterMark? ':' cs)
  let (second, cs) ← readField? (← afterMark? ':' cs)
  let (nano, cs) ← readFraction? cs
  let (offset, cs) ← readOffset? (trimStart cs)
  let wall ← of? date hour minute second nano
  if cs.all isBlank then wall.minutesEarlier? offset else none

/-! ## Writing -/

/-- A year in four digits; with a sign where these do not suffice. -/
def yearText (year : Int) : List Char :=
  if 0 ≤ year ∧ year ≤ 9999 then paddedDecimal 4 year.toNat
  else (if year < 0 then '-' else '+') :: paddedDecimal 4 year.natAbs

/-- The decimals of the seconds: the fewest of none, three, six or nine that are exact. -/
def fractionText (nano : Nat) : List Char :=
  if nano = 0 then []
  else if nano % 1000000 = 0 then '.' :: paddedDecimal 3 (nano / 1000000)
  else if nano % 1000 = 0 then '.' :: paddedDecimal 6 (nano / 1000)
  else '.' :: paddedDecimal 9 nano

/-- Write a point in time. -/
def text (t : Timestamp) : String :=
  String.ofList (yearText t.date.year ++
    '-' :: paddedDecimal 2 t.date.month ++ '-' :: paddedDecimal 2 t.date.day ++
    'T' :: paddedDecimal 2 t.hour ++ ':' :: paddedDecimal 2 t.minute ++
    ':' :: paddedDecimal 2 t.second ++ fractionText t.nano ++ ['Z'])

end Timestamp

end Emend
