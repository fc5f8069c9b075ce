import Emend.Interpreter
import Emend.Vocabulary.File

/-!
# Sessions

A session keeps a command at hand, which is typed, put together or changed step by step,
repaired and accepted. Beside the command it remembers the vocabulary in use and the
result of the last repair, from which a repaired command or one of the options may be
taken. A step that fails changes nothing.
-/

namespace Emend

/-- Where a vocabulary is taken from. -/
inductive VocabularySource
  /-- The text of a vocabulary file. -/
  | file (contents : String)
  /-- A vocabulary as it is. -/
  | given (vocabulary : Vocabulary)
deriving Repr

namespace VocabularySource

/-- The vocabulary as it is given; one from a file is checked. -/
def load : VocabularySource → Except LoadError Vocabulary
  | file contents => Vocabulary.ofFile contents
  | given v => .ok v

/-- The vocabulary in the form in which it is used. -/
def loadChecked (s : VocabularySource) : Except LoadError Vocabulary :=
  match s.load with
  | .ok v => v.checked.mapError .rejected
  | .error e => .error e

end VocabularySource

/-- A step of a session. -/
inductive SessionStep
  /-- Use another vocabulary. -/
  | useVocabulary (source : VocabularySource)
  /-- Read a line. -/
  | parse (input : String)
  /-- Read the command as it would be typed. -/
  | reparse
  /-- Start from a text of which nothing is known. -/
  | startOver (raw : String)
  /-- Start from known parts. -/
  | fromParts (raw intent target : String) (modifiers : Dict)
  /-- Change the intent and the target. -/
  | restate (intent target : String)
  /-- Change all modifiers. -/
  | restateModifiers (modifiers : Dict)
  /-- Add or change a modifier. -/
  | withModifier (key value : String)
  /-- Change the metadata. -/
  | withMetadata (metadata : Metadata)
  /-- Set or clear the mark of being grammatical. -/
  | setValid (value : Bool)
  /-- Hold the command against the grammar. -/
  | validate
  /-- Repair the command, and remember the result. -/
  | repair
  /-- Take the repaired command of the last result. -/
  | accept
  /-- Take one of the candidates of the last result. -/
  | choose (index : Nat)
deriving Repr

/-- What a step reports. -/
inductive StepReport
  | nothing
  | vocabulary (v : Vocabulary)
  | parsed (form : InputForm) (grammarError : Option GrammarError)
  | valid
  | decision (d : RepairDecision)
deriving DecidableEq, Repr

/-- Why a step fails. -/
inductive StepError
  | load (reason : LoadError)
  | grammar (reason : GrammarError)
  | repair (reason : RepairError)
  /-- There is no repaired command to take. -/
  | noRepair
  /-- There is no candidate of that number. -/
  | noCandidate
deriving DecidableEq, Repr

/-- The state of a session. -/
structure Session where
  vocabulary : Vocabulary
  command : Command := {}
  lastResult : Option RepairResult := none
deriving DecidableEq, Repr

namespace Session

/-- The session with another command at hand. -/
def take (s : Session) (c : Command) : Session × StepReport := ({ s with command := c }, .nothing)

/-- Read a line as the command at hand. -/
def parse (s : Session) (input : String) : Except StepError (Session × StepReport) :=
  match Line.read s.vocabulary input with
  | .error e => .error (.grammar e)
  | .ok p => .ok ({ s with command := p.command }, .parsed p.form p.grammarError)

/-- Carry out a step. -/
def step (s : Session) : SessionStep → Except StepError (Session × StepReport)
  | .useVocabulary source =>
    match source.loadChecked with
    | .error e => .error (.load e)
    | .ok v => .ok ({ s with vocabulary := v }, .vocabulary v)
  | .parse input => s.parse input
  | .reparse => s.parse (Line.ofArguments s.vocabulary.programName [s.command.display])
  | .startOver raw => .ok (s.take (.ofRaw raw))
  | .fromParts raw intent target modifiers => .ok (s.take (.ofParts raw intent target modifiers))
  | .restate intent target => .ok (s.take (s.command.restate intent target))
  | .restateModifiers modifiers => .ok (s.take (s.command.restateModifiers modifiers))
  | .withModifier key value => .ok (s.take (s.command.withModifier key value))
  | .withMetadata metadata => .ok (s.take (s.command.withMetadata metadata))
  | .setValid value => .ok (s.take (s.command.withValidity value))
  | .validate =>
    match s.vocabulary.validateCommand s.command with
    | .error e => .error (.grammar e)
    | .ok () => .ok (s, .valid)
  | .repair =>
    match repairWithDecision s.vocabulary Strategy.all s.command with
    | .error e => .error (.repair e)
    | .ok d => .ok ({ s with lastResult := some d.result }, .decision d)
  | .accept =>
    match s.lastResult.bind (·.repaired) with
    | none => .error .noRepair
    | some c => .ok (s.take c)
  | .choose index =>
    match s.lastResult.bind (·.candidates[index]?) with
    | none => .error .noCandidate
    | some c => .ok (s.take c)

/-- The session after a step; a step that fails leaves it as it is. -/
def after (s : Session) (step : SessionStep) : Session :=
  match s.step step with
  | .ok (next, _) => next
  | .error _ => s

/-- The session after some steps. -/
def run (s : Session) (steps : List SessionStep) : Session := steps.foldl after s

/-- What is reported of some steps, with the command at hand after each of them. -/
def reports (s : Session) : List SessionStep → List (Except StepError StepReport × Command)
  | [] => []
  | step :: rest =>
    let next := s.after step
    ((s.step step).map (·.2), next.command) :: next.reports rest

end Session

end Emend
