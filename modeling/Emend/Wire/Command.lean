import Emend.Command
import Emend.Json.Record

/-!
# Commands on the wire

Values are exchanged as JSON. A value of every type is written as an object with its
fields in a fixed order, without the optional fields that are unset, and read from any
value that gives its fields. Writing and reading are given side by side, `toJson` and
`ofJson?`; this module does so for commands, their metadata and what these hold.
-/

namespace Emend

namespace Uuid

/-- Write an identifier. -/
def toJson (u : Uuid) : Json := .text u.text

/-- Read an identifier. -/
def ofJson? (j : Json) : Option Uuid := j.toText?.bind read?

end Uuid

namespace Timestamp

/-- Write a point in time. -/
def toJson (t : Timestamp) : Json := .text t.text

/-- Read a point in time. -/
def ofJson? (j : Json) : Option Timestamp := j.toText?.bind read?

end Timestamp

namespace Metadata

/-- Write metadata. -/
def toJson (m : Metadata) : Json := .record [
  ("id", m.id.map Uuid.toJson),
  ("timestamp", m.timestamp.map Timestamp.toJson),
  ("user_id", m.userId.map Json.text),
  ("project_path", m.projectPath.map Json.text)]

/-- Read metadata. -/
def ofJson? (j : Json) : Option Metadata := do
  match ← j.slots? ["id", "timestamp", "user_id", "project_path"] with
  | [id, timestamp, userId, projectPath] =>
    some {
      id := ← id.optional Uuid.ofJson?
      timestamp := ← timestamp.optional Timestamp.ofJson?
      userId := ← userId.optional Json.toText?
      projectPath := ← projectPath.optional Json.toText? }
  | _ => none

end Metadata

namespace Command

/-- Write a command. -/
def toJson (c : Command) : Json := .record [
  ("raw", some (.text c.raw)),
  ("intent", some (.text c.intent)),
  ("target", some (.text c.target)),
  ("modifiers", some (.ofDict c.modifiers)),
  ("is_valid", some (.bool c.isValid)),
  ("metadata", some c.metadata.toJson)]

/-- Read a command. Its text and its intent have to be given. -/
def ofJson? (j : Json) : Option Command := do
  match ← j.slots? ["raw", "intent", "target", "modifiers", "is_valid", "metadata"] with
  | [raw, intent, target, modifiers, isValid, metadata] =>
    some {
      raw := ← raw.required Json.toText?
      intent := ← intent.required Json.toText?
      target := ← target.withDefault Json.toText? ""
      modifiers := ← modifiers.withDefault Json.toDict? ∅
      isValid := ← isValid.withDefault Json.toBool? false
      metadata := ← metadata.withDefault Metadata.ofJson? {} }
  | _ => none

end Command

end Emend
