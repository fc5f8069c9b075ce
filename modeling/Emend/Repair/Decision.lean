import Emend.Repair.Result

/-!
# What is done with a result

A command that is repaired with enough confidence is taken. Options are shown to the user,
if there is enough confidence in them, and in all other cases the text is passed on to
someone who may understand it.
-/

namespace Emend

/-- What is done with a result. -/
inductive Action
  /-- The repaired command is taken. -/
  | autoCorrect
  /-- The user is asked to choose. -/
  | presentOptions
  /-- The text is passed on. -/
  | failToBackend
deriving DecidableEq, Repr

namespace Action

/-- The name of the action in reports. -/
def name : Action → String
  | autoCorrect => "auto-correct"
  | presentOptions => "present-options"
  | failToBackend => "fail-to-backend"

end Action

namespace RepairResult

/-- The confidence above which a repaired command is taken without further ado. -/
def autoCorrectThreshold : Binary64 := Confidence.hundredths 90

/-- The confidence from which on a repaired command without alternatives is taken. -/
def singleFixFloor : Binary64 := Confidence.twoEdits

/-- The confidence from which on options are shown. -/
def presentOptionsFloor : Binary64 := Confidence.hundredths 50

/-- Whether the repaired command is to be taken. -/
def takesRepair (r : RepairResult) : Bool :=
  r.repaired.isSome &&
    (autoCorrectThreshold.below r.confidence ||
      (!r.hasCandidates && singleFixFloor.atMost r.confidence &&
        r.confidence.below autoCorrectThreshold))

/-- Whether the options are to be shown. -/
def showsOptions (r : RepairResult) : Bool :=
  r.hasCandidates && presentOptionsFloor.atMost r.confidence &&
    r.confidence.atMost autoCorrectThreshold

/-- What is done with the result. -/
def action (r : RepairResult) : Action :=
  if r.takesRepair then .autoCorrect
  else if r.showsOptions then .presentOptions
  else .failToBackend

end RepairResult

/-- A result together with what is done with it. -/
structure RepairDecision where
  result : RepairResult
  action : Action
deriving DecidableEq, Repr

/-- Repair a command and decide what is done with the result. -/
def repairWithDecision (v : Vocabulary) (strategies : List Strategy) (c : Command) :
    Except RepairError RepairDecision :=
  (repair v strategies c).map fun result => ⟨result, result.action⟩

end Emend
