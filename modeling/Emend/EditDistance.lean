import Emend.Text.Lowercase

/-!
# Edit distance

The edit distance of two words is the least number of single characters to insert, delete
or replace that turns one into the other. It is computed row by row: the row of a prefix
of the first word holds its distances to all prefixes of the second, and each row is made
from the one before. Words are compared in lower case.

`nearestEntries` looks a word up in a dictionary of words. Only the closest tier is of
use: if some entry is one edit away, those two edits away are no alternatives to it. An
entry equal to the word is not a match, for then there is nothing to correct.
-/

namespace Emend

namespace EditDistance

/-- The cells of a row after its first. `left` is the cell before, `diagonal` the one
above that, and the list holds the cells above. -/
def cellsFrom (c : Char) : Nat → Nat → List Char → List Nat → List Nat
  | left, diagonal, d :: ds, above :: rest =>
    let cell := min (min (above + 1) (left + 1)) (diagonal + if c = d then 0 else 1)
    cell :: cellsFrom c cell above ds rest
  | _, _, _, _ => []

/-- The row of a prefix that is one character longer than that of the row above. -/
def nextRow (c : Char) (word : List Char) : List Nat → List Nat
  | [] => []
  | first :: rest => (first + 1) :: cellsFrom c (first + 1) first word rest

/-- The row of a prefix: its distances to all prefixes of the other word. -/
def row (start word : List Char) : List Nat :=
  start.foldl (fun above c => nextRow c word above) (List.range (word.length + 1))

/-- The edit distance of two lists of characters. -/
def ofChars (a b : List Char) : Nat := (row a b).getLastD 0

end EditDistance

/-- The edit distance of two words, whatever the case of their letters. -/
def editDistance (a b : String) : Nat := EditDistance.ofChars (lower a.toList) (lower b.toList)

/-- An entry of a dictionary that resembles a word, with its distance from it. -/
structure NearEntry where
  entry : String
  distance : Nat
deriving DecidableEq, Repr

/-- The entries that differ from a word, but not by more than a number of edits. -/
def entriesWithin (token : String) (dictionary : List String) (limit : Nat) : List NearEntry :=
  (dictionary.map fun entry => ⟨entry, editDistance token entry⟩).filter
    fun m => 0 < m.distance ∧ m.distance ≤ limit

/-- The entries closest to a word among those that differ from it, but not by more than a
number of edits. Nothing resembles the empty word. -/
def nearestEntries (token : String) (dictionary : List String) (limit : Nat) : List NearEntry :=
  if token = "" then []
  else
    let near := entriesWithin token dictionary limit
    match (near.map (·.distance)).min? with
    | none => []
    | some least => near.filter (·.distance = least)

end Emend
