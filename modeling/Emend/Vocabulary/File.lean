import Emend.Files
import Emend.Toml.Document
import Emend.Vocabulary.Basic

/-!
# Vocabulary files

A vocabulary can be given as a TOML file. Keys it does not have are taken from the
built-in vocabulary, and keys that mean nothing are ignored, but a key that has a value of
another kind makes the file unusable, like a text that is not TOML. What is read is
checked at once.
-/

namespace Emend

/-- Why a vocabulary cannot be loaded. -/
inductive LoadError
  /-- The file cannot be read. -/
  | unreadable (path : String) (reason : FileError)
  /-- The text is not TOML, or a key has a value of the wrong kind. -/
  | malformed
  /-- Something is wrong with the vocabulary itself. -/
  | rejected (reason : VocabularyError)
deriving DecidableEq, Repr

namespace LoadError

/-- What the user is told. -/
def message : LoadError → String
  | unreadable path reason => "I/O error: " ++ path ++ ": " ++ reason.message
  | malformed => "invalid vocabulary file: TOML parse error"
  | rejected reason => reason.message

end LoadError

namespace Toml

/-- The key of the only entry of a date or time that is read as a table. -/
def datetimeKey : String := "$__toml_private_datetime"

/-- The entries of a value that is read as a table. -/
def toEntries? : Toml → Option (List (String × Toml))
  | table entries => some entries
  | datetime text => some [(datetimeKey, string text)]
  | _ => none

/-- The content of a string. -/
def toText? : Toml → Option String
  | string content => some content
  | _ => none

/-- The contents of an array of strings. -/
def toTexts? : Toml → Option (List String)
  | array elements => elements.mapM toText?
  | _ => none

/-- The dictionary of a table of strings. -/
def toDict? (t : Toml) : Option Dict := do
  let entries ← (← t.toEntries?).mapM fun (key, value) => (toText? value).map (key, ·)
  some (Dict.ofList entries)

/-- Read the value of a key, or take the default if there is none. -/
def field? {α : Type} (entries : List (String × Toml)) (key : String) (read : Toml → Option α)
    (default : α) : Option α :=
  match entries.lookup key with
  | none => some default
  | some value => read value

end Toml

namespace Vocabulary

/-- The vocabulary that a table describes. -/
def ofToml? (t : Toml) : Option Vocabulary := do
  let entries ← t.toEntries?
  some {
    programName := ← Toml.field? entries "program_name" Toml.toText? builtIn.programName
    intents := ← Toml.field? entries "intents" Toml.toTexts? builtIn.intents
    targetRequired := ← Toml.field? entries "target_required" Toml.toTexts? builtIn.targetRequired
    defaultIntent := ← Toml.field? entries "default_intent" Toml.toText? builtIn.defaultIntent
    targets := ← Toml.field? entries "targets" Toml.toTexts? builtIn.targets
    synonyms := ← Toml.field? entries "synonyms" Toml.toDict? builtIn.synonyms }

/-- The vocabulary in the text of a file. -/
def ofFile (contents : String) : Except LoadError Vocabulary :=
  match (Toml.read? contents).bind ofToml? with
  | none => .error .malformed
  | some v => v.checked.mapError .rejected

/-- The vocabulary in the file at a path. -/
def load {m : Type → Type} [Monad m] (readFile : String → m (Except FileError String))
    (path : String) : m (Except LoadError Vocabulary) := do
  match ← readFile path with
  | .error reason => return .error (.unreadable path reason)
  | .ok contents => return ofFile contents

end Vocabulary

end Emend
