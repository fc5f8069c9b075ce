import Emend.Modifiers.NormalForm
import Emend.Repair.Basic

/-!
# Modifiers out of form

The strategy brings all modifiers of a command to their normal form. It has nothing to
propose if they are in it already, or if the command is not grammatical even so, for the
modifiers have no part in that.
-/

namespace Emend

namespace Strategy

/-- What is reported of a modifier that is not in its normal form. -/
def modifierChange (e : String × String) : String :=
  let n := Modifiers.normalForm e
  "'" ++ e.1 ++ "=" ++ e.2 ++ "' → '" ++ n.1 ++ "=" ++ n.2 ++ "'"

/-- Bring the modifiers to their normal form. -/
def normalizeModifiers (v : Vocabulary) (c : Command) : Option Proposal :=
  match Modifiers.irregular c.modifiers with
  | [] => none
  | changed =>
    (v.approve (c.restateModifiers (Modifiers.normalized c.modifiers))).map fun repaired =>
      .single repaired Confidence.flagNormalization
        ("normalized modifiers: " ++ ", ".intercalate (changed.map modifierChange))

end Strategy

end Emend
