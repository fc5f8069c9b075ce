import Emend.Binary64.Basic
import Emend.Grammar

/-!
# Repairs

A command that is not grammatical may be a grammatical one gone wrong. A *strategy* looks
for one kind of slip and proposes what was meant: one command, or several among which it
cannot choose. Proposals come with a confidence from a fixed scale and an explanation.

This module holds the types of the repair and the scale of confidences. What a strategy
proposes is always grammatical; `Proposal.commands` are the commands for which that is to
be shown.
-/

namespace Emend

/-- The kinds of slip that can be repaired. -/
inductive Strategy
  /-- Modifiers are spelled in an unusual way. -/
  | flagNormalization
  /-- The intent and the target are in each other's place. -/
  | argumentOrder
  /-- The intent is called by another name. -/
  | synonymExpansion
  /-- The intent or the target is misspelled. -/
  | typoCorrection
deriving DecidableEq, Repr

/-- How a result came about. -/
inductive Finding
  /-- The command was known to be grammatical. -/
  | alreadyValid
  /-- A strategy applied. -/
  | strategy (strategy : Strategy)
deriving DecidableEq, Repr

namespace Strategy

/-- The name of the strategy in reports. -/
def name : Strategy → String
  | flagNormalization => "flag_normalization"
  | argumentOrder => "argument_order"
  | synonymExpansion => "synonym_expansion"
  | typoCorrection => "typo_correction"

/-- The strategies in the order in which they are tried. -/
def all : List Strategy := [flagNormalization, argumentOrder, synonymExpansion, typoCorrection]

end Strategy

/-- What a strategy proposes. -/
inductive Proposal
  /-- One command that was meant. -/
  | single (command : Command) (confidence : Binary64) (explanation : String)
  /-- Several commands, one of which was meant. -/
  | options (candidates : List Command) (confidence : Binary64) (explanation : String)
deriving DecidableEq, Repr

namespace Proposal

/-- The proposed commands. -/
def commands : Proposal → List Command
  | single command _ _ => [command]
  | options candidates _ _ => candidates

/-- How sure the strategy is. -/
def confidence : Proposal → Binary64
  | single _ confidence _ => confidence
  | options _ confidence _ => confidence

/-- Why the strategy applies. -/
def explanation : Proposal → String
  | single _ _ explanation => explanation
  | options _ _ explanation => explanation

end Proposal

/-! ## The scale of confidences -/

namespace Confidence

/-- A confidence in hundredths. -/
def hundredths (n : Nat) : Binary64 := .ofRatio false n 100

/-- Nothing had to be repaired. -/
def alreadyValid : Binary64 := hundredths 100

/-- The modifiers were spelled in another way. -/
def flagNormalization : Binary64 := hundredths 98

/-- The arguments were in another order. -/
def argumentOrder : Binary64 := hundredths 95

/-- The intent was called by another name. -/
def synonymExpansion : Binary64 := hundredths 95

/-- A word is one edit away from the only one it can stand for. -/
def oneEdit : Binary64 := hundredths 95

/-- A word is two edits away from the only one it can stand for. -/
def twoEdits : Binary64 := hundredths 85

/-- A misspelled word can stand for several. -/
def ambiguousWord : Binary64 := hundredths 70

/-- Two misspelled words can stand for several pairs. -/
def ambiguousPair : Binary64 := hundredths 60

/-- No repair was found. -/
def unrepaired : Binary64 := hundredths 0

/-- The confidence in a correction by a number of edits. -/
def ofEdits (distance : Nat) : Binary64 := if distance ≤ 1 then oneEdit else twoEdits

end Confidence

/-- How many edits away a word may be from what it is taken for. -/
def maxEdits : Nat := 2

end Emend
