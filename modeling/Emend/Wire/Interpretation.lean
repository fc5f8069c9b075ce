import Emend.Interpreter
import Emend.Wire.Inference
import Emend.Wire.Repair

/-!
# Interpretations on the wire

An interpretation is written as an object. What does not apply is left out: an error there
was not, a command that was not found, an empty list of candidates, a request that was not
made and an answer that did not come.
-/

namespace Emend

namespace Interpretation

/-- Write an interpretation. -/
def toJson (i : Interpretation) : Json := .record [
  ("action", some i.action.toJson),
  ("form", some (.text i.form.name)),
  ("confidence", some (.float i.confidence)),
  ("explanation", some (.text i.explanation)),
  ("grammar_error", i.grammarError.map fun e => .text e.message),
  ("strategy", i.finding.map Finding.toJson),
  ("original", some i.submitted.toJson),
  ("resolved", i.resolved.map Command.toJson),
  ("candidates", if i.candidates = [] then none else some (.ofList Command.toJson i.candidates)),
  ("handoff", i.handoff.map InferenceRequest.toJson),
  ("inferred", i.inferred.map InferredIntent.toJson)]

end Interpretation

end Emend
