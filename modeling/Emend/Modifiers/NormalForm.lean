import Emend.Command
import Emend.Text.Lowercase

/-!
# The normal form of modifiers

Modifiers are spelled in many ways: `--Output-File`, `output_file` and `outputfile` are
the same key, and `TRUE` is the same value as `true`. The normal form of a key has neither
dashes nor underscores and is in lower case, character by character. The normal form of a
value differs from it only for the two truth values, and an empty value counts as true.
-/

namespace Emend

namespace Modifiers

/-- The normal form of a key. -/
def normalKey (key : String) : String :=
  String.ofList <|
    ((key.toList.dropWhile (· = '-')).filter fun c => c ≠ '-' ∧ c ≠ '_').flatMap lowerChar

/-- Whether two texts differ at most in the case of their ASCII letters. -/
def sameButAsciiCase (a b : String) : Bool :=
  a.toList.map Char.toLower = b.toList.map Char.toLower

/-- The normal form of a value. -/
def normalValue (value : String) : String :=
  if value = "" ∨ sameButAsciiCase value flagTrue then flagTrue
  else if sameButAsciiCase value flagFalse then flagFalse
  else value

/-- The normal form of a modifier. -/
def normalForm (e : String × String) : String × String := (normalKey e.1, normalValue e.2)

/-- The normal form of all modifiers. Of those that come to have the same key, the last
one counts. -/
def normalized (modifiers : Dict) : Dict := Dict.ofList (modifiers.entries.map normalForm)

/-- The modifiers that are not in their normal form. -/
def irregular (modifiers : Dict) : List (String × String) :=
  modifiers.entries.filter fun e => normalForm e ≠ e

end Modifiers

end Emend
