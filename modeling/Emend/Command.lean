import Emend.Dict
import Emend.Text.Blank
import Emend.Timestamp
import Emend.Uuid

/-!
# Commands

A command is what was asked for: an *intent* such as `analyze`, a *target* such as
`security`, and *modifiers* such as `depth = 3`, beside the text it was typed as and the
metadata of the request. Whether it has been found to be grammatical is kept with it as a
mark, `isValid`.

The mark speaks of the intent and the target. Whatever derives a command with
another intent, target or set of modifiers (`restate`, `restateModifiers`) therefore
clears it, and copies the raw text and the metadata, which no repair may touch.
-/

namespace Emend

/-- What is known about the request a command came with. -/
structure Metadata where
  id : Option Uuid := none
  timestamp : Option Timestamp := none
  userId : Option String := none
  projectPath : Option String := none
deriving DecidableEq, Repr, Inhabited

/-- A command: an intent, perhaps applied to a target, with modifiers. -/
structure Command where
  raw : String := ""
  intent : String := ""
  target : String := ""
  modifiers : Dict := ∅
  isValid : Bool := false
  metadata : Metadata := {}
deriving DecidableEq, Repr, Inhabited

/-- The value of a modifier that is switched on. -/
def flagTrue : String := "true"

/-- The value of a modifier that is switched off. -/
def flagFalse : String := "false"

namespace Command

/-- A command of which nothing but the text is known. -/
def ofRaw (raw : String) : Command := { raw := raw }

/-- A command of known parts, not yet found to be grammatical. -/
def ofParts (raw intent target : String) (modifiers : Dict) : Command :=
  { raw := raw, intent := intent, target := target, modifiers := modifiers }

/-- The command with other metadata. -/
def withMetadata (c : Command) (metadata : Metadata) : Command :=
  { c with metadata := metadata }

/-- The command with one more modifier, or another value for one it has. -/
def withModifier (c : Command) (key value : String) : Command :=
  { c with modifiers := c.modifiers.insert key value }

/-- The command with its mark of being grammatical set or cleared. -/
def withValidity (c : Command) (isValid : Bool) : Command :=
  { c with isValid := isValid }

/-- The command with another intent and target. It is not known to be grammatical. -/
def restate (c : Command) (intent target : String) : Command :=
  { c with intent := intent, target := target, isValid := false }

/-- The command with other modifiers. It is not known to be grammatical. -/
def restateModifiers (c : Command) (modifiers : Dict) : Command :=
  { c with modifiers := modifiers, isValid := false }

/-- Whether the command names a target. -/
def hasTarget (c : Command) : Bool := c.target ≠ ""

/-- Whether there is nothing in the command to work on. -/
def isBlank (c : Command) : Bool :=
  isBlankText c.raw && c.intent = "" && c.target = "" && c.modifiers.isEmpty

/-- How a modifier is typed: a flag that is switched on by its name, any other with its
value. -/
def modifierText (e : String × String) : String :=
  if e.2 = flagTrue then "--" ++ e.1 else "--" ++ e.1 ++ "=" ++ e.2

/-- How the command is typed, without the name of the program. -/
def display (c : Command) : String :=
  c.modifiers.entries.foldl (fun line e => line ++ " " ++ modifierText e)
    (if c.hasTarget then c.intent ++ " " ++ c.target else c.intent)

end Command

end Emend
