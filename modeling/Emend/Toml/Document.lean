import Emend.Toml.Datetime
import Emend.Toml.Number
import Emend.Toml.Table
import Emend.Toml.Text

/-!
# TOML documents

A document is a list of lines: assignments of values to keys, which go to the table opened
last, headers of tables, and headers that append to a list of tables. Reading it means to
change the table of everything by one line after another (`Toml.read?`).

A value may hold others only to a limited depth, and so may a path hold keys; `depthLimit`
is that depth.
-/

namespace Emend

namespace Toml

/-- Values are nested in fewer than this many others, and a path has fewer than this many
keys. -/
def depthLimit : Nat := 80

/-- The keys that a text starts with, split into the path and the last one. -/
def dottedKey? (cs : List Char) : Option (List String × String × List Char) := do
  let (keys, rest) ← keyPath? (depthLimit - 1) cs
  some (keys.dropLast, ← keys.getLast?, rest)

/-- A value that holds no others. A number is a date before it is anything else, and a
float before an integer. -/
def scalar? (cs : List Char) : Option (Toml × List Char) :=
  match cs with
  | '"' :: _ | '\'' :: _ => (string? cs).map fun (s, rest) => (.string (String.ofList s), rest)
  | 't' :: 'r' :: 'u' :: 'e' :: rest => some (.boolean true, rest)
  | 'f' :: 'a' :: 'l' :: 's' :: 'e' :: rest => some (.boolean false, rest)
  | cs =>
    ((datetime? cs).map fun (t, rest) => (.datetime (String.ofList t), rest))
      <|> ((float? cs).map fun (x, rest) => (.float x, rest))
      <|> ((integer? cs).map fun (n, rest) => (.integer n, rest))

mutual

/-- The value that a text starts with. The first argument bounds the recursion, the second
the depth of the value. -/
def value? : Nat → Nat → List Char → Option (Toml × List Char)
  | 0, _, _ => none
  | fuel + 1, depth + 1, '[' :: cs => do
    let (elements, rest) ← elements? fuel depth cs
    some (.array elements, rest)
  | fuel + 1, depth + 1, '\x7b' :: cs =>
    match skipSpaces cs with
    | '\x7d' :: rest => some (.table [], rest)
    | cs => do
      let (node, rest) ← entries? fuel depth (Node.emptyTable .header) cs
      some (node.value, rest)
  | _ + 1, _, cs => scalar? cs

/-- The further elements of an array, up to its end. -/
def elements? : Nat → Nat → List Char → Option (List Toml × List Char)
  | 0, _, _ => none
  | fuel + 1, depth, cs => do
    match ← skipBlankLines? cs.length cs with
    | ']' :: rest => some ([], rest)
    | cs => do
      let (v, cs) ← value? fuel depth cs
      match ← skipBlankLines? cs.length cs with
      | ',' :: cs => do
        let (vs, rest) ← elements? fuel depth cs
        some (v :: vs, rest)
      | ']' :: rest => some ([v], rest)
      | _ => none

/-- The further entries of a table that is written as a value, up to its end. There is at
least one. -/
def entries? : Nat → Nat → Node → List Char → Option (Node × List Char)
  | 0, _, _, _ => none
  | fuel + 1, depth, node, cs => do
    let (path, key, cs) ← dottedKey? cs
    let (v, cs) ← value? fuel depth (skipSpaces (← after? '=' cs))
    let node ← node.addValue path key v
    match skipSpaces cs with
    | ',' :: cs => entries? fuel depth node cs
    | '\x7d' :: rest => some (node, rest)
    | _ => none

end

/-- The document read so far: all of its tables, and the path of the one that assignments
go to. -/
structure Progress where
  root : Node
  current : List String

/-- The line with an assignment that a text starts with. -/
def assignment? (p : Progress) (cs : List Char) : Option (Progress × List Char) := do
  let (path, key, cs) ← dottedKey? cs
  let cs := skipSpaces (← after? '=' cs)
  let (v, cs) ← value? (2 * cs.length + 2) (depthLimit - 1) cs
  let root ← p.root.update .implied (Node.addValue path key v) p.current
  some ({ p with root := root }, ← afterLine? cs)

/-- The line with a header that a text starts with, after its first bracket. -/
def header? (p : Progress) (cs : List Char) : Option (Progress × List Char) := do
  match cs with
  | '[' :: cs => do
    let (path, key, cs) ← dottedKey? cs
    let cs ← after? ']' (← after? ']' cs)
    let root ← p.root.update .implied (Node.appendTable key) path
    some (⟨root, path ++ [key]⟩, ← afterLine? cs)
  | cs => do
    let (path, key, cs) ← dottedKey? cs
    let cs ← after? ']' cs
    let root ← p.root.update .implied (Node.openTable key) path
    some (⟨root, path ++ [key]⟩, ← afterLine? cs)

/-- Read the lines of a text, of which there are at most as many as the first argument
says. -/
def lines? : Nat → Progress → List Char → Option Progress
  | limit, p, cs =>
    match skipSpaces cs with
    | [] => some p
    | c :: rest =>
      match limit with
      | 0 => none
      | limit + 1 => do
        let (p, rest) ←
          match c with
          | '[' => header? p rest
          | '#' => (afterLine? (c :: rest)).map (p, ·)
          | '\n' | '\r' => (afterNewline? (c :: rest)).map (p, ·)
          | _ => assignment? p (c :: rest)
        lines? limit p rest

/-- A text without the byte order mark it may start with. -/
def dropByteOrderMark : List Char → List Char
  | '\ufeff' :: cs => cs
  | cs => cs

/-- Read a document as a table. -/
def read? (s : String) : Option Toml :=
  let cs := dropByteOrderMark s.toList
  (lines? cs.length ⟨Node.emptyTable .header, []⟩ cs).map fun p => p.root.value

end Toml

end Emend
