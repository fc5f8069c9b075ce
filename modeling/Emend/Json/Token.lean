import Emend.Json.Numeral

/-!
# The words of JSON

A JSON text is a sequence of tokens with blanks between them. Tokens never run into each
other where a value follows a value, for the grammar puts a comma or a colon between any
two, so a text can be cut into tokens first and read afterwards.

A string is spelled in sixteen-bit units, some of which are halves of a character and have
a meaning only in pairs. A string with a half on its own can be spelled but is no text;
such a token has no content.
-/

namespace Emend

/-- A word of JSON. -/
inductive Token
  | openBracket
  | closeBracket
  | openBrace
  | closeBrace
  | comma
  | colon
  | null
  | bool (value : Bool)
  | number (numeral : Numeral)
  | string (content : Option String)
deriving DecidableEq, Repr

namespace Token

/-! ## Strings -/

/-- The letter that stands for a character after a backslash. -/
def escapeLetter? (c : Char) : Option Char :=
  match c with
  | '"' => some '"'
  | '\\' => some '\\'
  | '\x08' => some 'b'
  | '\x0c' => some 'f'
  | '\n' => some 'n'
  | '\r' => some 'r'
  | '\t' => some 't'
  | _ => none

/-- The character that a letter after a backslash stands for. -/
def unescapeLetter? (c : Char) : Option Char :=
  match c with
  | '"' => some '"'
  | '\\' => some '\\'
  | '/' => some '/'
  | 'b' => some '\x08'
  | 'f' => some '\x0c'
  | 'n' => some '\n'
  | 'r' => some '\r'
  | 't' => some '\t'
  | _ => none

/-- A unit of sixteen bits as four hexadecimal digits. -/
def unitDigits (n : Nat) : List Char :=
  [hexDigit (n / 4096 % 16), hexDigit (n / 256 % 16), hexDigit (n / 16 % 16), hexDigit (n % 16)]

/-- How a character is spelled in a string. -/
def charText (c : Char) : List Char :=
  match escapeLetter? c with
  | some e => ['\\', e]
  | none => if c.toNat < 0x20 then '\\' :: 'u' :: unitDigits c.toNat else [c]

/-- How a string is spelled. One without content is spelled as a half of a character. -/
def stringText : Option String → List Char
  | some s => '"' :: s.toList.flatMap charText ++ ['"']
  | none => '"' :: '\\' :: 'u' :: unitDigits 0xD800 ++ ['"']

/-- What a string spells, character by character or unit by unit, and what follows its
closing quote. -/
def stringUnits? : List Char → Option (List Nat × List Char)
  | [] => none
  | '"' :: cs => some ([], cs)
  | '\\' :: 'u' :: a :: b :: c :: d :: cs => do
    let digits ← allDigits? hexValue? [a, b, c, d]
    let (units, rest) ← stringUnits? cs
    some (ofDigits 16 digits :: units, rest)
  | '\\' :: e :: cs => do
    let c ← unescapeLetter? e
    let (units, rest) ← stringUnits? cs
    some (c.toNat :: units, rest)
  | c :: cs =>
    if c.toNat < 0x20 then none
    else do
      let (units, rest) ← stringUnits? cs
      some (c.toNat :: units, rest)

/-- The text that units spell, if every half of a character comes with its other half. -/
def decodeUnits? : List Nat → Option (List Char)
  | [] => some []
  | [u] => if 0xD800 ≤ u ∧ u < 0xE000 then none else some [Char.ofNat u]
  | u :: w :: rest =>
    if 0xD800 ≤ u ∧ u < 0xE000 then
      if u < 0xDC00 ∧ 0xDC00 ≤ w ∧ w < 0xE000 then
        (decodeUnits? rest).map (Char.ofNat (0x10000 + (u - 0xD800) * 1024 + (w - 0xDC00)) :: ·)
      else none
    else (decodeUnits? (w :: rest)).map (Char.ofNat u :: ·)

/-- The token of a string, after its opening quote, and what follows. -/
def readString? (cs : List Char) : Option (Token × List Char) := do
  let (units, rest) ← stringUnits? cs
  some (.string ((decodeUnits? units).map String.ofList), rest)

/-! ## Spelling and cutting -/

/-- How a token is spelled. -/
def text : Token → List Char
  | openBracket => ['[']
  | closeBracket => [']']
  | openBrace => ['\x7b']
  | closeBrace => ['\x7d']
  | comma => [',']
  | colon => [':']
  | null => ['n', 'u', 'l', 'l']
  | bool true => ['t', 'r', 'u', 'e']
  | bool false => ['f', 'a', 'l', 's', 'e']
  | number n => n.text
  | string s => stringText s

/-- Whether a character may stand between tokens. -/
def isSpace (c : Char) : Bool := c = ' ' || c = '\n' || c = '\t' || c = '\r'

/-- The token that a text starts with, and what follows. -/
def read? (cs : List Char) : Option (Token × List Char) :=
  match cs with
  | '[' :: cs => some (openBracket, cs)
  | ']' :: cs => some (closeBracket, cs)
  | '\x7b' :: cs => some (openBrace, cs)
  | '\x7d' :: cs => some (closeBrace, cs)
  | ',' :: cs => some (comma, cs)
  | ':' :: cs => some (colon, cs)
  | 'n' :: 'u' :: 'l' :: 'l' :: cs => some (null, cs)
  | 't' :: 'r' :: 'u' :: 'e' :: cs => some (bool true, cs)
  | 'f' :: 'a' :: 'l' :: 's' :: 'e' :: cs => some (bool false, cs)
  | '"' :: cs => readString? cs
  | cs => (Numeral.read? cs).map fun (n, rest) => (number n, rest)

/-- The tokens of a text, of which there are at most as many as the first number. -/
def readAll? : Nat → List Char → Option (List Token)
  | 0, cs => if cs.all isSpace then some [] else none
  | limit + 1, cs =>
    match cs.dropWhile isSpace with
    | [] => some []
    | cs => do
      let (t, rest) ← read? cs
      let ts ← readAll? limit rest
      some (t :: ts)

/-- The tokens of a text. Every token has at least one character, so there are no more of
them than characters. -/
def ofText? (cs : List Char) : Option (List Token) := readAll? cs.length cs

end Token

end Emend
