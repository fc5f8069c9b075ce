import Emend.Inference
import Emend.Wire.Command

/-!
# Inference on the wire

The request for inference and the answer to it as JSON.
-/

namespace Emend

namespace InferenceRequest

/-- Write a request for inference. -/
def toJson (r : InferenceRequest) : Json := .record [
  ("raw", some (.text r.raw)),
  ("context", r.context.map Json.text),
  ("command_id", r.commandId.map Uuid.toJson)]

/-- Read a request for inference. -/
def ofJson? (j : Json) : Option InferenceRequest := do
  match ← j.slots? ["raw", "context", "command_id"] with
  | [raw, context, commandId] =>
    some {
      raw := ← raw.required Json.toText?
      context := ← context.optional Json.toText?
      commandId := ← commandId.optional Uuid.ofJson? }
  | _ => none

end InferenceRequest

namespace InferredIntent

/-- Write an inferred intent. -/
def toJson (i : InferredIntent) : Json := .record [
  ("intent", some (.text i.intent)),
  ("target", some (.text i.target)),
  ("modifiers", some (.ofDict i.modifiers)),
  ("confidence", some (.float i.confidence)),
  ("explanation", some (.text i.explanation)),
  ("clarifications", if i.clarifications = [] then none else some (.ofList .text i.clarifications))]

/-- Read an inferred intent. -/
def ofJson? (j : Json) : Option InferredIntent := do
  match ← j.slots?
    ["intent", "target", "modifiers", "confidence", "explanation", "clarifications"] with
  | [intent, target, modifiers, confidence, explanation, clarifications] =>
    some {
      intent := ← intent.required Json.toText?
      target := ← target.withDefault Json.toText? ""
      modifiers := ← modifiers.withDefault Json.toDict? ∅
      confidence := ← confidence.required Json.toFloat?
      explanation := ← explanation.withDefault Json.toText? ""
      clarifications := ← clarifications.withDefault (Json.toList? Json.toText?) [] }
  | _ => none

end InferredIntent

end Emend
