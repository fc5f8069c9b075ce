import Emend.Json.Token

/-!
# JSON values

A value is made of tokens in one way (`Json.tokens`), and a list of tokens is read back by
recursive descent (`Json.ofTokens?`). Objects keep their members in the order in which
they are spelled, with repetitions, because what a repeated key means depends on what the
object is read as.

`Json.compact` spells a value without blanks, and `Json.pretty` with every element on a
line of its own.
-/

namespace Emend

/-- A value of JSON. A string without content spells no text. -/
inductive Json
  | null
  | bool (value : Bool)
  | number (numeral : Numeral)
  | string (content : Option String)
  | array (elements : List Json)
  | object (members : List (Option String × Json))
deriving Repr, Inhabited

namespace Json

/-- The value of a text. -/
def text (s : String) : Json := .string (some s)

/-- The value of a finite number. -/
def float (x : Binary64) : Json := .number (.ofBinary64 x)

/-- The value of a natural number. -/
def nat (n : Nat) : Json := .number (.ofNat n)

/-- The object with the given members, less those that have no value. -/
def record (members : List (String × Option Json)) : Json :=
  .object (members.filterMap fun (key, value?) => value?.map fun value => (some key, value))

/-! ## Tokens of a value -/

mutual

/-- The tokens that spell a value. -/
def tokens : Json → List Token
  | null => [.null]
  | bool b => [.bool b]
  | number n => [.number n]
  | string s => [.string s]
  | array [] => [.openBracket, .closeBracket]
  | array (v :: vs) => .openBracket :: tokens v ++ elementTokens vs
  | object [] => [.openBrace, .closeBrace]
  | object (m :: ms) => .openBrace :: memberTokens m ++ membersTokens ms

/-- The tokens of the further elements of an array, up to its end. -/
def elementTokens : List Json → List Token
  | [] => [.closeBracket]
  | v :: vs => .comma :: tokens v ++ elementTokens vs

/-- The tokens of a member of an object. -/
def memberTokens : Option String × Json → List Token
  | (key, value) => .string key :: .colon :: tokens value

/-- The tokens of the further members of an object, up to its end. -/
def membersTokens : List (Option String × Json) → List Token
  | [] => [.closeBrace]
  | m :: ms => .comma :: memberTokens m ++ membersTokens ms

end

mutual

/-- The value that a list of tokens starts with, and what follows. The number bounds the
depth of the recursion. -/
def valueOf? : Nat → List Token → Option (Json × List Token)
  | 0, _ => none
  | _ + 1, .null :: ts => some (null, ts)
  | _ + 1, .bool b :: ts => some (bool b, ts)
  | _ + 1, .number n :: ts => some (number n, ts)
  | _ + 1, .string s :: ts => some (string s, ts)
  | _ + 1, .openBracket :: .closeBracket :: ts => some (array [], ts)
  | _ + 1, .openBrace :: .closeBrace :: ts => some (object [], ts)
  | n + 1, .openBracket :: ts => do
    let (vs, ts) ← elementsOf? n ts
    some (array vs, ts)
  | n + 1, .openBrace :: ts => do
    let (ms, ts) ← membersOf? n ts
    some (object ms, ts)
  | _ + 1, _ => none

/-- The elements of an array, of which there is at least one, and what follows its end. -/
def elementsOf? : Nat → List Token → Option (List Json × List Token)
  | 0, _ => none
  | n + 1, ts => do
    let (v, ts) ← valueOf? n ts
    match ts with
    | .comma :: ts => do
      let (vs, ts) ← elementsOf? n ts
      some (v :: vs, ts)
    | .closeBracket :: ts => some ([v], ts)
    | _ => none

/-- The members of an object, of which there is at least one, and what follows its end. -/
def membersOf? : Nat → List Token → Option (List (Option String × Json) × List Token)
  | n + 1, .string key :: .colon :: ts => do
    let (v, ts) ← valueOf? n ts
    match ts with
    | .comma :: ts => do
      let (ms, ts) ← membersOf? n ts
      some ((key, v) :: ms, ts)
    | .closeBrace :: ts => some ([(key, v)], ts)
    | _ => none
  | _, _ => none

end

/-- The value spelled by a list of tokens. A step of the recursion that takes no token is
followed by one that does, so twice the number of tokens is deep enough. -/
def ofTokens? (ts : List Token) : Option Json :=
  match valueOf? (2 * ts.length + 1) ts with
  | some (v, []) => some v
  | _ => none

/-! ## Texts -/

/-- Read a text as a value. -/
def read? (s : String) : Option Json := (Token.ofText? s.toList).bind ofTokens?

/-- The shortest text of a value. -/
def compact (j : Json) : String := String.ofList (j.tokens.flatMap Token.text)

/-- A new line with the given number of levels of indentation, two spaces each. -/
def newLine (level : Nat) : List Char := '\n' :: List.replicate (2 * level) ' '

mutual

/-- The text of a value at a level of indentation. -/
def prettyAt (level : Nat) : Json → List Char
  | null => Token.null.text
  | bool b => (Token.bool b).text
  | number n => n.text
  | string s => Token.stringText s
  | array [] => ['[', ']']
  | array (v :: vs) =>
    '[' :: newLine (level + 1) ++ prettyAt (level + 1) v ++ prettyElements level vs
  | object [] => ['\x7b', '\x7d']
  | object (m :: ms) =>
    '\x7b' :: newLine (level + 1) ++ prettyMember (level + 1) m ++ prettyMembers level ms

/-- The further elements of an array, up to its end. -/
def prettyElements (level : Nat) : List Json → List Char
  | [] => newLine level ++ [']']
  | v :: vs => ',' :: newLine (level + 1) ++ prettyAt (level + 1) v ++ prettyElements level vs

/-- A member of an object. -/
def prettyMember (level : Nat) : Option String × Json → List Char
  | (key, value) => Token.stringText key ++ [':', ' '] ++ prettyAt level value

/-- The further members of an object, up to its end. -/
def prettyMembers (level : Nat) : List (Option String × Json) → List Char
  | [] => newLine level ++ ['\x7d']
  | m :: ms => ',' :: newLine (level + 1) ++ prettyMember (level + 1) m ++ prettyMembers level ms

end

/-- The text of a value with every element and member on a line of its own. -/
def pretty (j : Json) : String := String.ofList (prettyAt 0 j)

end Json

end Emend
