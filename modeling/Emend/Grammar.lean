import Emend.Command
import Emend.Vocabulary.Basic

/-!
# Grammatical commands

A command is grammatical under a vocabulary if its intent is declared and, where the
intent needs one, it has a target. Nothing is asked of the target itself, nor of the
modifiers. `Vocabulary.validateCommand` says what is missing, and `Vocabulary.approve`
marks a command that lacks nothing.
-/

namespace Emend

/-- Why a text or a command is not a command of the grammar. -/
inductive GrammarError
  /-- The text holds nothing but blanks. -/
  | emptyInput
  /-- The command has no intent. -/
  | missingIntent
  /-- The intent of the command is not declared. -/
  | unknownIntent (intent : String)
  /-- The intent of the command needs a target, and there is none. -/
  | missingTarget (intent : String)
deriving DecidableEq, Repr

namespace GrammarError

/-- What the user is told. -/
def message : GrammarError → String
  | emptyInput => "empty input"
  | missingIntent => "missing intent"
  | unknownIntent intent => "invalid grammar: unknown intent '" ++ intent ++ "'"
  | missingTarget intent => "invalid grammar: intent '" ++ intent ++ "' requires a target"

end GrammarError

namespace Vocabulary

/-- Whether a command is grammatical, and if not, why. -/
def validateCommand (v : Vocabulary) (c : Command) : Except GrammarError Unit :=
  if c.intent = "" then .error .missingIntent
  else if !v.isIntent c.intent then .error (.unknownIntent c.intent)
  else if v.requiresTarget c.intent && !c.hasTarget then .error (.missingTarget c.intent)
  else .ok ()

/-- The command marked as grammatical, if it is. -/
def approve (v : Vocabulary) (c : Command) : Option Command :=
  match v.validateCommand c with
  | .ok () => some (c.withValidity true)
  | .error _ => none

end Vocabulary

end Emend
