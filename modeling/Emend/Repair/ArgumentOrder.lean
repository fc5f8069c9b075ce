import Emend.Repair.Basic

/-!
# Arguments out of place

A declared intent in the place of the target shows that the arguments were typed in
another order, and so does a known target in the place of the intent. There are three
cases, which exclude each other: the two are swapped, the intent is missing and stands in
the target's place, or the target stands alone in the intent's place and the default
intent is meant.
-/

namespace Emend

namespace Strategy

/-- Propose a command with its arguments in other places, if it is grammatical. -/
def reorder (v : Vocabulary) (c : Command) (explanation : String) : Option Proposal :=
  (v.approve c).map fun repaired => .single repaired Confidence.argumentOrder explanation

/-- Exchange the intent and the target. -/
def swapArguments (v : Vocabulary) (c : Command) : Option Proposal :=
  if c.intent ≠ "" ∧ c.hasTarget ∧ v.isIntent c.target then
    let intent := lowercase c.target
    reorder v (c.restate intent c.intent)
      ("swapped intent and target: '" ++ intent ++ " " ++ c.intent ++ "'")
  else none

/-- Move the target to the empty place of the intent. -/
def promoteTarget (v : Vocabulary) (c : Command) : Option Proposal :=
  if c.intent = "" ∧ v.isIntent c.target then
    let intent := lowercase c.target
    reorder v (c.restate intent "") ("moved '" ++ intent ++ "' from target to intent")
  else none

/-- Take a lone target for what the default intent is applied to. -/
def assumeDefaultIntent (v : Vocabulary) (c : Command) : Option Proposal :=
  if c.intent ≠ "" ∧ !c.hasTarget ∧ v.isTarget c.intent then
    reorder v (c.restate v.defaultIntent c.intent)
      ("'" ++ c.intent ++ "' is a target; using default intent '" ++ v.defaultIntent ++ "'")
  else none

/-- Put the arguments in their places. -/
def orderArguments (v : Vocabulary) (c : Command) : Option Proposal :=
  swapArguments v c <|> promoteTarget v c <|> assumeDefaultIntent v c

end Strategy

end Emend
