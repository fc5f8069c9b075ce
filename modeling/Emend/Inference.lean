import Emend.Binary64.Basic
import Emend.Dict
import Emend.Uuid

/-!
# Inference

A text that cannot be repaired is passed on to a service that infers the intent behind it.
The request carries the text as it was typed; the answer, if there is one, names an intent
and says how sure the service is of it.
-/

namespace Emend

/-- What the service is asked. -/
structure InferenceRequest where
  raw : String
  context : Option String := none
  commandId : Option Uuid := none
deriving DecidableEq, Repr

/-- What the service answers. -/
structure InferredIntent where
  intent : String
  target : String := ""
  modifiers : Dict := ∅
  confidence : Binary64
  explanation : String := ""
  clarifications : List String := []
deriving DecidableEq, Repr

end Emend
