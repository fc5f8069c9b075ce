import Emend.Text.Digits

/-!
# Texts in TOML

The character-level rules of TOML: spaces, line ends and comments, the four kinds of
string, and keys. A basic string, in double quotes, has escapes; a literal string, in
apostrophes, has none. Either may run over several lines if it is opened and closed by
three quotes, and may then hold one or two quotes in a row, even right before the closing
ones.

Every reader takes the rest of the text after what tells the kind of thing, and returns
what it read and what follows it.
-/

namespace Emend

namespace Toml

/-- Whether a character may stand between the parts of a line. -/
def isSpace (c : Char) : Bool := c = ' ' || c = '\t'

/-- A text without the spaces in front. -/
def skipSpaces (cs : List Char) : List Char := cs.dropWhile isSpace

/-- Whether a character may stand in a comment or a literal string: a tab, or any that is
not a control character. -/
def isPrintable (c : Char) : Bool := c = '\t' || (' ' ≤ c && c ≠ '\x7f')

/-- What follows the end of a line. -/
def afterNewline? : List Char → Option (List Char)
  | '\n' :: cs => some cs
  | '\r' :: '\n' :: cs => some cs
  | _ => none

/-- A text without the comment it may start with. -/
def skipComment : List Char → List Char
  | '#' :: cs => cs.dropWhile isPrintable
  | cs => cs

/-- What follows a line of which only spaces and a comment are left. -/
def afterLine? (cs : List Char) : Option (List Char) :=
  match skipComment (skipSpaces cs) with
  | [] => some []
  | cs => afterNewline? cs

/-- A text without the spaces, line ends and comments in front; `none` if a comment does
not end properly. The first argument bounds their number. -/
def skipBlankLines? : Nat → List Char → Option (List Char)
  | 0, cs => some cs
  | limit + 1, cs =>
    match skipSpaces cs with
    | '#' :: rest => (afterLine? ('#' :: rest)).bind (skipBlankLines? limit)
    | rest =>
      match afterNewline? rest with
      | some rest => skipBlankLines? limit rest
      | none => some rest

/-! ## Escapes -/

/-- The character that a letter after a backslash stands for. -/
def escapeLetter? : Char → Option Char
  | 'b' => some '\x08'
  | 't' => some '\t'
  | 'n' => some '\n'
  | 'f' => some '\x0c'
  | 'r' => some '\r'
  | '"' => some '"'
  | '\\' => some '\\'
  | _ => none

/-- The character with a given number in hexadecimal digits, if there is one. -/
def characterOf? (digits : List Char) : Option Char := do
  let n := ofDigits 16 (← allDigits? hexValue? digits)
  if n < 0xD800 ∨ (0xE000 ≤ n ∧ n < 0x110000) then some (Char.ofNat n) else none

/-- Put a character before what a string goes on to hold. -/
def andThen (c : Char) (r : List Char × List Char) : List Char × List Char := (c :: r.1, r.2)

/-! ## Strings -/

/-- A basic string on one line, after its opening quote. -/
def basicString? : List Char → Option (List Char × List Char)
  | [] => none
  | '"' :: cs => some ([], cs)
  | '\\' :: 'u' :: a :: b :: c :: d :: cs => do
    some (andThen (← characterOf? [a, b, c, d]) (← basicString? cs))
  | '\\' :: 'U' :: a :: b :: c :: d :: e :: f :: g :: h :: cs => do
    some (andThen (← characterOf? [a, b, c, d, e, f, g, h]) (← basicString? cs))
  | '\\' :: e :: cs => do some (andThen (← escapeLetter? e) (← basicString? cs))
  | c :: cs => if isPrintable c then (basicString? cs).map (andThen c) else none

/-- The number of quotes a text starts with. -/
def quoteRun (quote : Char) (cs : List Char) : Nat := (cs.takeWhile (· = quote)).length

/-- The end of a string over several lines, at three quotes or more: up to two of them
still belong to it. -/
def closeMultiline? (quote : Char) (cs : List Char) : Option (List Char × List Char) :=
  let n := quoteRun quote cs
  if n ≤ 5 then some (List.replicate (n - 3) quote, cs.drop n) else none

/-- A basic string over several lines, after its opening quotes. A backslash at the end of
a line takes the line end and all spaces and line ends after it out of the string;
`joining` says that this is going on. -/
def multilineBasic? (joining : Bool) : List Char → Option (List Char × List Char)
  | [] => none
  | '\n' :: cs =>
    if joining then multilineBasic? true cs else (multilineBasic? false cs).map (andThen '\n')
  | '\r' :: '\n' :: cs =>
    if joining then multilineBasic? true cs else (multilineBasic? false cs).map (andThen '\n')
  | '"' :: cs =>
    if 3 ≤ quoteRun '"' ('"' :: cs) then closeMultiline? '"' ('"' :: cs)
    else (multilineBasic? false cs).map (andThen '"')
  | '\\' :: 'u' :: a :: b :: c :: d :: cs => do
    some (andThen (← characterOf? [a, b, c, d]) (← multilineBasic? false cs))
  | '\\' :: 'U' :: a :: b :: c :: d :: e :: f :: g :: h :: cs => do
    some (andThen (← characterOf? [a, b, c, d, e, f, g, h]) (← multilineBasic? false cs))
  | '\\' :: cs =>
    if (afterNewline? (skipSpaces cs)).isSome then multilineBasic? true cs
    else
      match cs with
      | [] => none
      | e :: cs => do some (andThen (← escapeLetter? e) (← multilineBasic? false cs))
  | c :: cs =>
    if joining && isSpace c then multilineBasic? true cs
    else if isPrintable c then (multilineBasic? false cs).map (andThen c)
    else none

/-- A literal string on one line, after its opening apostrophe. -/
def literalString? : List Char → Option (List Char × List Char)
  | [] => none
  | '\'' :: cs => some ([], cs)
  | c :: cs => if isPrintable c then (literalString? cs).map (andThen c) else none

/-- A literal string over several lines, after its opening apostrophes. -/
def multilineLiteral? : List Char → Option (List Char × List Char)
  | [] => none
  | '\n' :: cs => (multilineLiteral? cs).map (andThen '\n')
  | '\r' :: '\n' :: cs => (multilineLiteral? cs).map (andThen '\n')
  | '\'' :: cs =>
    if 3 ≤ quoteRun '\'' ('\'' :: cs) then closeMultiline? '\'' ('\'' :: cs)
    else (multilineLiteral? cs).map (andThen '\'')
  | c :: cs => if isPrintable c then (multilineLiteral? cs).map (andThen c) else none

/-- A text without the line end it may start with. -/
def dropNewline (cs : List Char) : List Char := (afterNewline? cs).getD cs

/-- A string of any kind, if the text starts with one. -/
def string? : List Char → Option (List Char × List Char)
  | '"' :: '"' :: '"' :: cs => multilineBasic? false (dropNewline cs)
  | '"' :: cs => basicString? cs
  | '\'' :: '\'' :: '\'' :: cs => multilineLiteral? (dropNewline cs)
  | '\'' :: cs => literalString? cs
  | _ => none

/-! ## Keys -/

/-- Whether a character may stand in a key without quotes. -/
def isKeyChar (c : Char) : Bool := c.isAlphanum || c = '-' || c = '_'

/-- A key without dots, if the text starts with one. -/
def simpleKey? (cs : List Char) : Option (String × List Char) :=
  let ofChars (r : List Char × List Char) : String × List Char := (String.ofList r.1, r.2)
  match cs with
  | '"' :: cs => (basicString? cs).map ofChars
  | '\'' :: cs => (literalString? cs).map ofChars
  | cs =>
    match cs.takeWhile isKeyChar with
    | [] => none
    | key => some (String.ofList key, cs.dropWhile isKeyChar)

/-- The keys joined by dots that a text starts with, and what follows them and the spaces
after them. The first argument bounds their number. -/
def keyPath? : Nat → List Char → Option (List String × List Char)
  | 0, _ => none
  | limit + 1, cs => do
    let (key, cs) ← simpleKey? (skipSpaces cs)
    match skipSpaces cs with
    | '.' :: cs => do
      let (keys, cs) ← keyPath? limit cs
      some (key :: keys, cs)
    | cs => some ([key], cs)

end Toml

end Emend
