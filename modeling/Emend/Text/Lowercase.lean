import Emend.Text.CaseTable
import Emend.Text.CaseContext

/-!
# Lower case

The lower case of a text is that of its characters, with two exceptions: `İ` becomes the
two characters `i` and a combining dot, and a capital sigma becomes `ς` at the end of a
word and `σ` elsewhere. A sigma ends a word if the nearest character before it that is not
looked through has a case, and the nearest one after it does not; so `ΣΑΣ` becomes `σας`.

Words are compared through `lowercase`, which looks at whole texts. `lowerChar` is
the lower case of a character on its own, where a sigma has no context and becomes `σ`.
-/

namespace Emend

/-- The lower case of a single character. -/
def lowerChar (c : Char) : List Char :=
  if c = 'İ' then ['i', '\u0307'] else [Char.ofNat (CaseRun.lookup lowerRuns c.toNat)]

/-- Whether the nearest character that is not looked through has a case. -/
def startsCased (cs : List Char) : Bool :=
  match cs.dropWhile isCaseIgnorable with
  | [] => false
  | c :: _ => isCased c

/-- The lower case of the rest of a text. `afterCased` says whether the nearest character
before it that is not looked through has a case. -/
def lowerFrom (afterCased : Bool) : List Char → List Char
  | [] => []
  | c :: cs =>
    let afterCased' := if isCaseIgnorable c then afterCased else isCased c
    if c = 'Σ' then
      (if afterCased && !startsCased cs then 'ς' else 'σ') :: lowerFrom afterCased' cs
    else
      lowerChar c ++ lowerFrom afterCased' cs

/-- The lower case of a text. -/
def lower (cs : List Char) : List Char := lowerFrom false cs

/-- The lower case of a text. -/
def lowercase (s : String) : String := String.ofList (lower s.toList)

end Emend
