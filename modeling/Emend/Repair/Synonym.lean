import Emend.Repair.Basic

/-!
# Synonyms

An intent that is known under another name is replaced by the declared one; the target
stays.
-/

namespace Emend

namespace Strategy

/-- Replace a synonym by the intent it stands for. -/
def expandSynonym (v : Vocabulary) (c : Command) : Option Proposal :=
  (v.synonym? c.intent).bind fun canonical =>
    (v.approve (c.restate canonical c.target)).map fun repaired =>
      .single repaired Confidence.synonymExpansion
        ("interpreted '" ++ c.intent ++ "' as '" ++ canonical ++ "'")

end Strategy

end Emend
