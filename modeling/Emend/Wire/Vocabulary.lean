import Emend.Json.Record
import Emend.Vocabulary.Basic

/-!
# Vocabularies on the wire

A vocabulary is written with all of its fields. Any of them may be left out of what is
read, and is then that of the built-in vocabulary. Nothing is checked.
-/

namespace Emend

namespace Vocabulary

/-- Write a vocabulary. -/
def toJson (v : Vocabulary) : Json := .record [
  ("program_name", some (.text v.programName)),
  ("intents", some (.ofList .text v.intents)),
  ("target_required", some (.ofList .text v.targetRequired)),
  ("default_intent", some (.text v.defaultIntent)),
  ("targets", some (.ofList .text v.targets)),
  ("synonyms", some (.ofDict v.synonyms))]

/-- Read a vocabulary. What is not given is taken from the built-in one. -/
def ofJson? (j : Json) : Option Vocabulary := do
  match ← j.slots?
    ["program_name", "intents", "target_required", "default_intent", "targets", "synonyms"] with
  | [programName, intents, targetRequired, defaultIntent, targets, synonyms] =>
    some {
      programName := ← programName.withDefault Json.toText? builtIn.programName
      intents := ← intents.withDefault (Json.toList? Json.toText?) builtIn.intents
      targetRequired :=
        ← targetRequired.withDefault (Json.toList? Json.toText?) builtIn.targetRequired
      defaultIntent := ← defaultIntent.withDefault Json.toText? builtIn.defaultIntent
      targets := ← targets.withDefault (Json.toList? Json.toText?) builtIn.targets
      synonyms := ← synonyms.withDefault Json.toDict? builtIn.synonyms }
  | _ => none

end Vocabulary

end Emend
