import Emend.Config
import Emend.Wire.Interpretation

/-!
# The program

The program interprets its arguments as one line and prints the interpretation. Its exit
code says what came of it; if it cannot start, or if there is no line to interpret, it
says why on the error channel and ends with code one.

All that it does between being called and ending is the function `Program.run`; a caller
provides the circumstances, and carries out the report.
-/

namespace Emend

/-- What the program finds when it is called. -/
structure Circumstances where
  /-- The arguments, without the name under which the program is called. -/
  arguments : List String
  /-- The variables of the environment. -/
  environment : String → Option String
  /-- The directory the program is called in, if there is one. -/
  workingDirectory : Option String
  /-- A fresh identifier for the command. -/
  id : Uuid
  /-- The time of the call. -/
  now : Timestamp

/-- What the program has to say in the end. -/
structure Report where
  exitCode : Nat
  output : String := ""
  errors : String := ""
deriving DecidableEq, Repr

namespace Report

/-- The report of a program that gives up. -/
def failure (speaker reason : String) : Report :=
  { exitCode := 1, errors := speaker ++ ": " ++ reason ++ "\n" }

end Report

namespace Program

/-- The metadata of the command that the program is called with. -/
def metadata (c : Circumstances) (config : Config) : Metadata where
  id := some c.id
  timestamp := some c.now
  userId := config.userId
  projectPath := config.projectPath <|> c.workingDirectory

/-- Interpret the arguments under a checked vocabulary. -/
def interpret (c : Circumstances) (config : Config) (v : Vocabulary) : Report :=
  let interpreter : Interpreter := { vocabulary := v, context := config.inferenceContext }
  match interpreter.interpret (Line.ofArguments v.programName c.arguments) (metadata c config) with
  | .error e => .failure v.programName e.message
  | .ok i => { exitCode := i.exitCode, output := i.toJson.pretty ++ "\n" }

/-- What the program does. -/
def run {m : Type → Type} [Monad m] (readFile : String → m (Except FileError String))
    (c : Circumstances) : m Report := do
  match ← Config.load readFile c.environment with
  | .error e => return .failure "Error" e.message
  | .ok config =>
    match ← config.loadVocabulary readFile with
    | .error e => return .failure "Error" e.message
    | .ok v =>
      match v.checked with
      | .error e => return .failure "Error" e.message
      | .ok v => return interpret c config v

end Program

end Emend
