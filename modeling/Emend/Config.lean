import Emend.Vocabulary.File

/-!
# Configuration

The program is configured by a TOML file, whose path is in the environment, and by
variables of the environment, which have precedence. A variable that is set to the empty
text is set; a format of the log that does not exist is ignored in the environment, but
not in the file.
-/

namespace Emend

/-- The format of the log. -/
inductive LogFormat
  | text
  | json
deriving DecidableEq, Repr

namespace LogFormat

/-- The name of the format. -/
def name : LogFormat → String
  | text => "text"
  | json => "json"

/-- The format of exactly that name. -/
def ofName? (name : String) : Option LogFormat :=
  if name = "text" then some .text else if name = "json" then some .json else none

/-- The format that a variable names, whatever the case of its ASCII letters and the
blanks around it. -/
def ofVariable? (value : String) : Option LogFormat :=
  ofName? (String.ofList ((trim value.toList).map Char.toLower))

/-- Whether a value stands for nothing: an empty table or array. -/
def isEmptyValue : Toml → Bool
  | .table entries => entries.isEmpty
  | .array elements => elements.isEmpty
  | _ => false

/-- The format that a file gives: its name, or a table with that name as the only key,
whose value is empty. -/
def ofToml? : Toml → Option LogFormat
  | .string name => ofName? name
  | .table [(name, value)] => if isEmptyValue value then ofName? name else none
  | _ => none

end LogFormat

/-- How the program is set up. -/
structure Config where
  vocabularyPath : Option String := none
  logFormat : LogFormat := .text
  userId : Option String := none
  projectPath : Option String := none
  inferenceContext : Option String := none
deriving DecidableEq, Repr

/-- Why there is no configuration. -/
inductive ConfigError
  /-- The file cannot be read. -/
  | unreadable (reason : FileError)
  /-- The text is not TOML, or a key has a value of the wrong kind. -/
  | malformed
deriving DecidableEq, Repr

namespace ConfigError

/-- What the user is told. -/
def message : ConfigError → String
  | unreadable reason => reason.message
  | malformed => "TOML parse error"

end ConfigError

namespace Config

/-- The configuration that a table describes. -/
def ofToml? (t : Toml) : Option Config := do
  let entries ← t.toEntries?
  let text? (key : String) : Option (Option String) :=
    Toml.field? entries key (fun value => (Toml.toText? value).map some) none
  some {
    vocabularyPath := ← text? "vocabulary_path"
    logFormat := ← Toml.field? entries "log_format" LogFormat.ofToml? .text
    userId := ← text? "user_id"
    projectPath := ← text? "project_path"
    inferenceContext := ← text? "inference_context" }

/-- The configuration in the text of a file. -/
def ofFile (contents : String) : Except ConfigError Config :=
  match (Toml.read? contents).bind ofToml? with
  | none => .error .malformed
  | some c => .ok c

/-- The variables of the environment that count. -/
def variableNames : List String :=
  ["MENDER_CONFIG", "MENDER_VOCABULARY", "MENDER_LOG_FORMAT", "MENDER_USER", "MENDER_PROJECT"]

/-- The configuration with what the environment says differently. -/
def withEnvironment (c : Config) (environment : String → Option String) : Config :=
  { c with
    vocabularyPath := environment "MENDER_VOCABULARY" <|> c.vocabularyPath
    logFormat := ((environment "MENDER_LOG_FORMAT").bind LogFormat.ofVariable?).getD c.logFormat
    userId := environment "MENDER_USER" <|> c.userId
    projectPath := environment "MENDER_PROJECT" <|> c.projectPath }

/-- The configuration of the program in an environment. -/
def load {m : Type → Type} [Monad m] (readFile : String → m (Except FileError String))
    (environment : String → Option String) : m (Except ConfigError Config) := do
  match environment "MENDER_CONFIG" with
  | none => return .ok (withEnvironment {} environment)
  | some path =>
    match ← readFile path with
    | .error reason => return .error (.unreadable reason)
    | .ok contents => return (ofFile contents).map (·.withEnvironment environment)

/-- The vocabulary that the configuration names, or the built-in one. -/
def loadVocabulary {m : Type → Type} [Monad m] (c : Config)
    (readFile : String → m (Except FileError String)) : m (Except LoadError Vocabulary) :=
  match c.vocabularyPath with
  | none => return .ok Vocabulary.builtIn
  | some path => Vocabulary.load readFile path

end Config

end Emend
