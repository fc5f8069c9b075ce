import Emend.Command

/-!
# Modifiers on a line

What follows the intent and the target of a typed command are its modifiers. There are
four ways to write one: `key=value` and `--key=value` in one word, `--key value` in two,
and a flag, `--key` or a bare `key`, which is switched on. A word that begins with a dash
takes the next word as its value unless that begins with a dash as well. One or two
leading dashes do not belong to a key, and what has no key is dropped.

The words are first cut into modifiers (`Modifiers.ofWords`), and these are then collected
in a dictionary, in which the last one of a key counts.
-/

namespace Emend

namespace Modifiers

/-- A word without its leading dashes, of which there are at most two. -/
def withoutDashes : List Char → List Char
  | '-' :: '-' :: cs => cs
  | '-' :: cs => cs
  | cs => cs

/-- Whether a word is written like a flag. -/
def isDashed (word : List Char) : Bool := word.head? = some '-'

/-- The two sides of the first equality sign of a word. -/
def assignment? (word : List Char) : Option (List Char × List Char) :=
  match word.dropWhile (· ≠ '=') with
  | [] => none
  | _ :: value => some (word.takeWhile (· ≠ '='), value)

/-- The modifiers a list of words spells, as keys and values in order. -/
def ofWords : List (List Char) → List (List Char × List Char)
  | [] => []
  | word :: rest =>
    match assignment? word with
    | some (key, value) => (withoutDashes key, value) :: ofWords rest
    | none =>
      if isDashed word then
        match rest with
        | [] => [(withoutDashes word, flagTrue.toList)]
        | next :: rest' =>
          if isDashed next then (withoutDashes word, flagTrue.toList) :: ofWords (next :: rest')
          else (withoutDashes word, next) :: ofWords rest'
      else (word, flagTrue.toList) :: ofWords rest

/-- Collect modifiers that have a key. -/
def collect (modifiers : List (List Char × List Char)) : Dict :=
  Dict.ofList <| (modifiers.filter (fun m => m.1 ≠ [])).map
    fun m => (String.ofList m.1, String.ofList m.2)

/-- The modifiers in a text. -/
def read (tail : String) : Dict := collect (ofWords (words tail.toList))

end Modifiers

end Emend
