import Emend.Grammar
import Emend.Modifiers.Basic
import Emend.Text.CaseFold
import Emend.Text.WordChar

/-!
# Typed lines

A line is *structured* if it begins with the name of the program, in whatever case,
followed by blanks and a word made of word characters, its intent. The next word is its
target if that is made of word characters too; all that remains are modifiers. Any other
line is *natural language*: it is not an error, but nothing is read from it.

`Line.split?` cuts a structured line into those parts. `Line.read` makes them a command,
with intent and target in lower case, and holds it against the grammar: a structured line
that names an unknown intent is still structured, and comes with the error.
-/

namespace Emend

/-- What a line looks like. -/
inductive InputForm
  | structured
  | naturalLanguage
deriving DecidableEq, Repr

namespace InputForm

/-- The name of the form in reports. -/
def name : InputForm → String
  | structured => "structured"
  | naturalLanguage => "natural_language"

end InputForm

/-- What was read from a line. -/
structure ParsedLine where
  command : Command
  form : InputForm
  grammarError : Option GrammarError
deriving DecidableEq, Repr

namespace ParsedLine

/-- Whether nothing but the text is known of the line. -/
def isNaturalLanguage (p : ParsedLine) : Bool := p.form = .naturalLanguage

end ParsedLine

namespace Line

/-- Whether a word may be an intent or a target. -/
def isWord (word : List Char) : Bool := word.all isWordChar

/-- The parts of a structured line as they are typed. -/
structure Parts where
  intent : List Char
  target : List Char
  modifiers : List (List Char)
deriving DecidableEq, Repr

/-- The parts of what follows the name of the program. -/
def ofWords? : List (List Char) → Option Parts
  | [] => none
  | intent :: rest =>
    if isWord intent then
      match rest with
      | [] => some ⟨intent, [], []⟩
      | word :: rest' =>
        if isWord word then some ⟨intent, word, rest'⟩ else some ⟨intent, [], word :: rest'⟩
    else none

/-- The parts of a line without surrounding blanks, if it is structured. -/
def split? (programName line : List Char) : Option Parts :=
  match dropCaseless programName line with
  | some (c :: rest) => if isBlank c then ofWords? (words rest) else none
  | _ => none

/-- Read a line under a vocabulary. -/
def read (v : Vocabulary) (input : String) : Except GrammarError ParsedLine :=
  if isBlankText input then .error .emptyInput
  else
    match split? v.programName.toList (trim input.toList) with
    | none => .ok ⟨.ofRaw input, .naturalLanguage, none⟩
    | some parts =>
      let command := Command.ofParts input (String.ofList (lower parts.intent))
        (String.ofList (lower parts.target)) (Modifiers.collect (Modifiers.ofWords parts.modifiers))
      match v.validateCommand command with
      | .ok () => .ok ⟨command.withValidity true, .structured, none⟩
      | .error e => .ok ⟨command, .structured, some e⟩

/-- The line that a program was called with: its name and its arguments, or nothing if
these are blank. -/
def ofArguments (programName : String) (arguments : List String) : String :=
  let joined := " ".intercalate arguments
  if isBlankText joined then "" else programName ++ " " ++ joined

end Line

end Emend
