import Emend.Inference
import Emend.Line
import Emend.Repair.Decision

/-!
# Interpreting a line

A line is read, what was read is repaired, and what cannot be repaired is handed to the
inference service with the text as it was typed. The outcome is an *interpretation*: the
command that was meant, or the commands among which the user has to choose, or what was
handed over and what came back.

The metadata of the request goes with the command from the start, so it is found in
everything that is derived from it.
-/

namespace Emend

/-- A service that may know what is meant by a text. -/
abbrev InferenceBackend := InferenceRequest → Option InferredIntent

/-- The service that never answers. -/
def InferenceBackend.offline : InferenceBackend := fun _ => none

/-- What came of a line. -/
structure Interpretation where
  action : Action
  form : InputForm
  confidence : Binary64
  explanation : String
  grammarError : Option GrammarError
  finding : Option Finding
  submitted : Command
  resolved : Option Command
  candidates : List Command
  handoff : Option InferenceRequest
  inferred : Option InferredIntent
deriving DecidableEq, Repr

/-- Why a line cannot be interpreted. -/
inductive InterpretError
  | grammar (reason : GrammarError)
  | repair (reason : RepairError)
deriving DecidableEq, Repr

namespace InterpretError

/-- What the user is told. -/
def message : InterpretError → String
  | grammar reason => reason.message
  | repair reason => reason.message

end InterpretError

/-- What interprets lines: a vocabulary, a service for inference, and what that is told
besides the text. -/
structure Interpreter where
  vocabulary : Vocabulary
  backend : InferenceBackend := .offline
  context : Option String := none

namespace Interpreter

/-- What the service is asked about a command. -/
def request (i : Interpreter) (c : Command) : InferenceRequest where
  raw := c.raw
  context := i.context
  commandId := c.metadata.id

/-- The interpretation of a command that was read from a line, after the attempt to repair
it. -/
def conclude (i : Interpreter) (parsed : ParsedLine) (command : Command) (d : RepairDecision) :
    Interpretation :=
  let handoff := if d.action = .failToBackend then some (i.request command) else none
  { action := d.action
    form := parsed.form
    confidence := d.result.confidence
    explanation := d.result.explanation
    grammarError := parsed.grammarError
    finding := d.result.finding
    submitted := d.result.submitted
    resolved := d.result.repaired
    candidates := d.result.candidates
    handoff := handoff
    inferred := handoff.bind i.backend }

/-- Interpret a line. -/
def interpret (i : Interpreter) (input : String) (metadata : Metadata) :
    Except InterpretError Interpretation :=
  match Line.read i.vocabulary input with
  | .error reason => .error (.grammar reason)
  | .ok parsed =>
    let command := parsed.command.withMetadata metadata
    match repairWithDecision i.vocabulary Strategy.all command with
    | .error reason => .error (.repair reason)
    | .ok decision => .ok (i.conclude parsed command decision)

end Interpreter

namespace Interpretation

/-- The exit code of the program: whether there is a command to go on with, a choice to
make, or neither. -/
def exitCode (i : Interpretation) : Nat :=
  match i.action with
  | .autoCorrect => 0
  | .presentOptions => 2
  | .failToBackend => if i.inferred.isSome then 0 else 3

end Interpretation

end Emend
