import Emend.Dict
import Emend.Text.Blank
import Emend.Text.Lowercase

/-!
# Vocabularies

A vocabulary says which commands exist: the name of the program, the intents it knows,
those of them that need a target, the intent assumed when only a target is given, the
known targets, and the synonyms under which intents are also known.

A vocabulary can be written carelessly. `normalized` brings every word to its *key*, its
lower case without surrounding blanks, and drops the blank ones; `validate` sees to it
that every intent that is referred to is declared; `checked` does both, and its result is
what commands are read and repaired against. Words are looked up by their lower case.
-/

namespace Emend

/-- The commands that exist. -/
structure Vocabulary where
  programName : String
  intents : List String
  targetRequired : List String
  defaultIntent : String
  targets : List String
  synonyms : Dict
deriving DecidableEq, Repr

/-- The entries of a vocabulary that refer to intents. -/
inductive IntentReference
  | defaultIntent
  | targetRequired
  | synonyms
deriving DecidableEq, Repr

namespace IntentReference

/-- The name of the entry in a vocabulary file. -/
def name : IntentReference → String
  | defaultIntent => "default_intent"
  | targetRequired => "target_required"
  | synonyms => "synonyms"

end IntentReference

/-- What can be wrong with a vocabulary. -/
inductive VocabularyError
  /-- There is no intent. -/
  | noIntents
  /-- An entry refers to an intent that is not declared. -/
  | undeclaredIntent (reference : IntentReference) (intent : String)
deriving DecidableEq, Repr

namespace VocabularyError

/-- What the user is told. -/
def message : VocabularyError → String
  | noIntents => "vocabulary declares no intents"
  | undeclaredIntent reference intent =>
    reference.name ++ " refers to undeclared intent '" ++ intent ++ "'"

end VocabularyError

/-- The form under which a word is entered in a vocabulary. -/
def wordKey (word : String) : String := lowercase (trimmed word)

/-- The words that are not blank, each in the form under which it is entered. -/
def wordKeys (words : List String) : List String := (words.map wordKey).filter (· ≠ "")

namespace Vocabulary

/-! ## Look-ups -/

/-- Whether a word is one of the entries, whatever the case of its letters. -/
def lists (entries : List String) (word : String) : Bool := entries.contains (lowercase word)

/-- Whether a word is a declared intent. -/
def isIntent (v : Vocabulary) (word : String) : Bool := lists v.intents word

/-- Whether a word is a known target. -/
def isTarget (v : Vocabulary) (word : String) : Bool := lists v.targets word

/-- Whether an intent needs a target. -/
def requiresTarget (v : Vocabulary) (intent : String) : Bool := lists v.targetRequired intent

/-- The intent that a word is a synonym of. -/
def synonym? (v : Vocabulary) (word : String) : Option String := v.synonyms.get? (lowercase word)

/-! ## Checking -/

/-- The vocabulary with every word in the form under which it is looked up. The name of
the program is compared without regard to case and keeps its own. -/
def normalized (v : Vocabulary) : Vocabulary where
  programName := trimmed v.programName
  intents := wordKeys v.intents
  targetRequired := wordKeys v.targetRequired
  defaultIntent := wordKey v.defaultIntent
  targets := wordKeys v.targets
  synonyms := Dict.ofList (v.synonyms.entries.map fun e => (wordKey e.1, wordKey e.2))

/-- The first of some words that is not a declared intent. -/
def firstUndeclared? (v : Vocabulary) (words : List String) : Option String :=
  words.find? (fun word => !v.isIntent word)

/-- Whether every intent that is referred to is declared, and if not, the first that is
not. -/
def validate (v : Vocabulary) : Except VocabularyError Unit :=
  if v.intents = [] then .error .noIntents
  else if !v.isIntent v.defaultIntent then
    .error (.undeclaredIntent .defaultIntent v.defaultIntent)
  else
    match v.firstUndeclared? v.targetRequired, v.firstUndeclared? v.synonyms.values with
    | some intent, _ => .error (.undeclaredIntent .targetRequired intent)
    | none, some intent => .error (.undeclaredIntent .synonyms intent)
    | none, none => .ok ()

/-- The vocabulary in the form in which it is used, if nothing is wrong with it. -/
def checked (v : Vocabulary) : Except VocabularyError Vocabulary :=
  match v.normalized.validate with
  | .ok () => .ok v.normalized
  | .error e => .error e

/-! ## The built-in vocabulary -/

/-- The intents of the built-in vocabulary. -/
def builtInIntents : List String :=
  ["status", "analyze", "improve", "fix", "test", "plan", "deploy"]

/-- The targets of the built-in vocabulary. -/
def builtInTargets : List String :=
  ["project", "security", "performance", "coverage", "quality", "dependencies", "docs", "risk",
    "build", "phase"]

/-- The built-in intents with the words they are also known under. -/
def builtInSynonyms : List (String × List String) := [
  ("status", ["check", "show", "view", "info", "display", "lookup"]),
  ("analyze", ["inspect", "examine", "scan", "audit", "investigate"]),
  ("improve", ["optimize", "enhance", "refactor", "upgrade", "tune"]),
  ("fix", ["repair", "patch", "resolve", "debug"]),
  ("test", ["verify", "validate", "run"]),
  ("plan", ["design", "roadmap", "outline"]),
  ("deploy", ["ship", "release", "publish", "launch"])]

/-- The vocabulary that is used where none is given; the entries a vocabulary file leaves
out are taken from it. -/
def builtIn : Vocabulary where
  programName := "mender"
  intents := builtInIntents
  targetRequired := ["analyze", "improve"]
  defaultIntent := "status"
  targets := builtInTargets
  synonyms := Dict.ofList (builtInSynonyms.flatMap fun (intent, words) => words.map (·, intent))

end Vocabulary

end Emend
