import Emend.Repair.Decision
import Emend.Wire.Command

/-!
# Repairs on the wire

The strategies, the findings, the actions and the results of repairs as JSON. The first
three are written as their names.
-/

namespace Emend

namespace Strategy

/-- The strategy of a name. -/
def ofName? (name : String) : Option Strategy := all.find? fun s => s.name = name

end Strategy

namespace Finding

/-- The name of a finding. -/
def name : Finding → String
  | alreadyValid => "already_valid"
  | strategy s => s.name

/-- The finding of a name. -/
def ofName? (name : String) : Option Finding :=
  (alreadyValid :: Strategy.all.map .strategy).find? fun f => f.name = name

/-- Write a finding. -/
def toJson (f : Finding) : Json := .text f.name

/-- Read a finding. -/
def ofJson? (j : Json) : Option Finding := j.toTag?.bind ofName?

end Finding

namespace Action

/-- The action of a name. -/
def ofName? (name : String) : Option Action :=
  [autoCorrect, presentOptions, failToBackend].find? fun a => a.name = name

/-- Write an action. -/
def toJson (a : Action) : Json := .text a.name

/-- Read an action. -/
def ofJson? (j : Json) : Option Action := j.toTag?.bind ofName?

end Action

namespace RepairResult

/-- Write the result of a repair. -/
def toJson (r : RepairResult) : Json := .record [
  ("original", some r.submitted.toJson),
  ("repaired", r.repaired.map Command.toJson),
  ("confidence", some (.float r.confidence)),
  ("explanation", some (.text r.explanation)),
  ("candidates", some (.ofList Command.toJson r.candidates)),
  ("strategy", r.finding.map Finding.toJson)]

/-- Read the result of a repair. -/
def ofJson? (j : Json) : Option RepairResult := do
  match ← j.slots?
    ["original", "repaired", "confidence", "explanation", "candidates", "strategy"] with
  | [submitted, repaired, confidence, explanation, candidates, strategy] =>
    some {
      submitted := ← submitted.required Command.ofJson?
      repaired := ← repaired.optional Command.ofJson?
      confidence := ← confidence.required Json.toFloat?
      explanation := ← explanation.required Json.toText?
      candidates := ← candidates.withDefault (Json.toList? Command.ofJson?) []
      finding := ← strategy.optional Finding.ofJson? }
  | _ => none

end RepairResult

namespace RepairDecision

/-- Write a decision. -/
def toJson (d : RepairDecision) : Json := .record [
  ("result", some d.result.toJson),
  ("action", some d.action.toJson)]

end RepairDecision

end Emend
