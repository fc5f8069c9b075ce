import Emend.Text.CaseTable

/-!
# Caseless comparison

Two characters are the same but for case if they have the same representative: capital,
small and title-case forms of a letter share one, and so do the odd forms of a letter such
as the long `ſ` and the final `ς`. A character never stands for several, so `ß` does not
match `ss`, and the Turkish letters `İ` and `ı` match only themselves.
-/

namespace Emend

/-- The representative of a character among the forms of the same letter. -/
def foldCase (c : Char) : Nat := CaseRun.lookup foldRuns c.toNat

/-- What is left of a text after a given beginning, which may differ from it in case. -/
def dropCaseless : List Char → List Char → Option (List Char)
  | [], cs => some cs
  | _ :: _, [] => none
  | p :: ps, c :: cs => if foldCase p = foldCase c then dropCaseless ps cs else none

end Emend
