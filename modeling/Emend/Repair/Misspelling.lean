import Emend.EditDistance
import Emend.Repair.Basic

/-!
# Misspellings

An unknown intent is taken for the declared intents closest to it, and a target that is
not known but close to known ones for those. A target that is close to none is left alone,
since it may be a name the vocabulary does not have; so a field is corrected, kept, or, in
the case of the intent, beyond correction.

If a single reading comes of this, it is proposed with a confidence that depends on the
number of edits. If there are several, those that are grammatical are offered as options,
even if only one of them is left: the choice is then not that of the speller.
-/

namespace Emend

namespace Strategy

/-- The entries that an unknown intent may be meant to be; `none` if the intent is
declared. -/
def intentMatches? (v : Vocabulary) (c : Command) : Option (List NearEntry) :=
  if v.isIntent c.intent then none else some (nearestEntries c.intent v.intents maxEdits)

/-- The entries that an unknown target may be meant to be; `none` if there is no target,
if it is known, or if it is close to no known one. -/
def targetMatches? (v : Vocabulary) (c : Command) : Option (List NearEntry) :=
  if c.hasTarget ∧ !v.isTarget c.target then
    match nearestEntries c.target v.targets maxEdits with
    | [] => none
    | found => some found
  else none

/-- Propose the only reading of a command, or those of several that are grammatical. -/
def propose (v : Vocabulary) (readings : List Command) (confidence : Binary64)
    (explanation : String) (optionsConfidence : Binary64) (optionsExplanation : String) :
    Option Proposal :=
  match readings with
  | [] => none
  | [only] => (v.approve only).map fun repaired => .single repaired confidence explanation
  | several =>
    match several.filterMap v.approve with
    | [] => none
    | candidates => some (.options candidates optionsConfidence optionsExplanation)

/-- The words a field may be meant to be, for the user to see. -/
def entryList (found : List NearEntry) : String :=
  ", ".intercalate (found.map (·.entry))

/-- The largest of the distances. -/
def largestDistance (found : List NearEntry) : Nat :=
  found.foldl (fun d m => max d m.distance) 0

/-- What is said of a word that stands for a certain one. -/
def correctionText (token : String) (found : List NearEntry) : String :=
  "'" ++ token ++ "' to '" ++ entryList found ++ "'"

/-- Correct one field, given the command that an entry makes of it. -/
def correctWord (v : Vocabulary) (token : String) (found : List NearEntry)
    (restate : String → Command) : Option Proposal :=
  let distance := largestDistance found
  propose v (found.map fun m => restate m.entry)
    (Confidence.ofEdits distance)
    ("corrected " ++ correctionText token found ++ " (edit distance " ++ toString distance ++ ")")
    Confidence.ambiguousWord
    ("'" ++ token ++ "' is ambiguous: " ++ entryList found)

/-- Correct both fields. -/
def correctPair (v : Vocabulary) (c : Command) (intents targets : List NearEntry) :
    Option Proposal :=
  propose v (intents.flatMap fun i => targets.map fun t => c.restate i.entry t.entry)
    (Confidence.ofEdits (largestDistance (intents ++ targets)))
    ("corrected " ++ correctionText c.intent intents ++ " and " ++ correctionText c.target targets)
    Confidence.ambiguousPair
    ("'" ++ c.intent ++ " " ++ c.target ++ "' is ambiguous: intent one of [" ++ entryList intents ++
      "], target one of [" ++ entryList targets ++ "]")

/-- Replace misspelled words by those they are closest to. -/
def correctTypos (v : Vocabulary) (c : Command) : Option Proposal :=
  match intentMatches? v c, targetMatches? v c with
  | none, none => none
  | some intents, none => correctWord v c.intent intents (c.restate · c.target)
  | none, some targets => correctWord v c.target targets (c.restate c.intent ·)
  | some intents, some targets => correctPair v c intents targets

end Strategy

end Emend
