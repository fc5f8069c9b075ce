import Emend.Text.Span

/-!
# Blanks and words

A text is read as words separated by blanks. The blanks are the characters with the
White_Space property: the ASCII controls from tab to carriage return, the space, the
next-line control and the spaces and separators of other scripts; the zero-width
characters are not among them.

`words` cuts a text into its maximal runs of other characters, and `trim` removes the
blanks at both ends. Both are defined on lists of characters; `trimmed` and `isBlankText`
are their use on strings.
-/

namespace Emend

/-- The blank characters in ascending order. -/
def blankSpans : List Span := [
  ⟨0x9, 0xD⟩, ⟨0x20, 0x20⟩, ⟨0x85, 0x85⟩, ⟨0xA0, 0xA0⟩, ⟨0x1680, 0x1680⟩, ⟨0x2000, 0x200A⟩,
  ⟨0x2028, 0x2029⟩, ⟨0x202F, 0x202F⟩, ⟨0x205F, 0x205F⟩, ⟨0x3000, 0x3000⟩]

/-- Whether a character separates words. -/
def isBlank (c : Char) : Bool := Span.covers blankSpans c.toNat

/-- A text without the blanks in front. -/
def trimStart (cs : List Char) : List Char := cs.dropWhile isBlank

/-- A text without the blanks at its end. -/
def trimEnd (cs : List Char) : List Char := (cs.reverse.dropWhile isBlank).reverse

/-- A text without the blanks at either end. -/
def trim (cs : List Char) : List Char := trimEnd (trimStart cs)

/-- Put a word before others, unless it is empty. -/
def consWord (w : List Char) (ws : List (List Char)) : List (List Char) :=
  if w = [] then ws else w :: ws

/-- The characters up to the first blank, and the words after them. -/
def leadingWord : List Char → List Char × List (List Char)
  | [] => ([], [])
  | c :: cs =>
    let (w, ws) := leadingWord cs
    if isBlank c then ([], consWord w ws) else (c :: w, ws)

/-- The words of a text: its maximal runs of characters that are not blank, in order. -/
def words (cs : List Char) : List (List Char) :=
  let (w, ws) := leadingWord cs
  consWord w ws

/-- The text without the blanks at either end. -/
def trimmed (s : String) : String := String.ofList (trim s.toList)

/-- Whether a text holds nothing but blanks. -/
def isBlankText (s : String) : Bool := s.toList.all isBlank

end Emend
