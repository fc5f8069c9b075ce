import Emend.Repair.ArgumentOrder
import Emend.Repair.Misspelling
import Emend.Repair.ModifierForm
import Emend.Repair.Synonym

/-!
# Repairing a command

The strategies are tried in order, and the first that has something to propose decides the
result. A command that is known to be grammatical is its own repair, and one in which
there is nothing to work on has none. If no strategy applies, the result holds no command
at all and its confidence is zero.
-/

namespace Emend

namespace Strategy

/-- What a strategy proposes for a command. -/
def attempt (v : Vocabulary) (c : Command) : Strategy → Option Proposal
  | flagNormalization => normalizeModifiers v c
  | argumentOrder => orderArguments v c
  | synonymExpansion => expandSynonym v c
  | typoCorrection => correctTypos v c

end Strategy

/-- What came of the attempt to repair a command. -/
structure RepairResult where
  submitted : Command
  repaired : Option Command
  confidence : Binary64
  explanation : String
  candidates : List Command
  finding : Option Finding
deriving DecidableEq, Repr

namespace RepairResult

/-- Whether there are options to choose from. -/
def hasCandidates (r : RepairResult) : Bool := !r.candidates.isEmpty

/-- Whether the result holds no command. -/
def isUnrepaired (r : RepairResult) : Bool := r.repaired.isNone && r.candidates.isEmpty

/-- The result for a command that is known to be grammatical. -/
def ofValid (c : Command) : RepairResult :=
  ⟨c, some c, Confidence.alreadyValid, "already valid", [], some .alreadyValid⟩

/-- The result of what a strategy proposes. -/
def ofProposal (submitted : Command) (strategy : Strategy) : Proposal → RepairResult
  | .single command confidence explanation =>
    ⟨submitted, some command, confidence, explanation, [], some (.strategy strategy)⟩
  | .options candidates confidence explanation =>
    ⟨submitted, none, confidence, explanation, candidates, some (.strategy strategy)⟩

/-- The result if no strategy applies. -/
def unrepaired (submitted : Command) : RepairResult :=
  ⟨submitted, none, Confidence.unrepaired,
    "deterministic repair failed; intent inference required", [], none⟩

end RepairResult

/-- Why a command cannot be repaired. -/
inductive RepairError
  /-- There is nothing in the command to work on. -/
  | undefinedCommand
deriving DecidableEq, Repr

namespace RepairError

/-- What the user is told. -/
def message : RepairError → String
  | undefinedCommand => "undefined command: nothing to repair"

end RepairError

/-- The result of trying some strategies in turn on a command. -/
def tryStrategies (v : Vocabulary) (c : Command) : List Strategy → RepairResult
  | [] => .unrepaired c
  | strategy :: rest =>
    match strategy.attempt v c with
    | some proposal => .ofProposal c strategy proposal
    | none => tryStrategies v c rest

/-- Repair a command by the given strategies. -/
def repair (v : Vocabulary) (strategies : List Strategy) (c : Command) :
    Except RepairError RepairResult :=
  if c.isBlank then .error .undefinedCommand
  else if c.isValid then .ok (.ofValid c)
  else .ok (tryStrategies v c strategies)

end Emend
