import Emend.Binary64.Basic

/-!
# Tables under construction

The tables of a TOML text are not written down one after another: a header or a key with
dots names a path, and creates the tables on it that do not exist yet. What may be added
to a table later depends on how it came about. A table with a header of its own is closed
to keys with dots from other tables, one that was created by such a key has no header, and
one that was implied by a header further down may still get its own. An array or a table
that is written as a value is complete.

`Node.update` follows a path and changes the table at its end; a path that enters a list
of tables goes on in the last of them. Adding a key, opening a table and appending to a
list of tables are all such changes.
-/

namespace Emend

/-- A value of TOML. A date or time is kept as the text it is written as. -/
inductive Toml
  | string (content : String)
  | integer (value : Int)
  | float (value : Binary64)
  | boolean (value : Bool)
  | datetime (text : String)
  | array (elements : List Toml)
  | table (entries : List (String × Toml))
deriving Repr

namespace Toml

/-- How a table came about. -/
inductive Origin
  /-- It has a header, or is the whole text. -/
  | header
  /-- It is on the path of the header of another. -/
  | implied
  /-- It is on the path of a key with dots. -/
  | dotted
deriving DecidableEq, Repr

/-- What has been read for a key: a complete value, a table, or a list of tables, the last
one first. -/
inductive Node
  | leaf (value : Toml)
  | branch (origin : Origin) (entries : List (String × Node))
  | series (tables : List Node)
deriving Repr

namespace Node

/-- A table without entries. -/
def emptyTable (origin : Origin) : Node := .branch origin []

/-- The entries of a table with another one for a key. -/
def setEntry (entries : List (String × Node)) (key : String) (node : Node) :
    List (String × Node) :=
  (key, node) :: entries.filter (fun e => e.1 != key)

/-- Change the table at the end of a path. The tables that are missing on the path are
created with the given origin; a path of a key with dots must not enter a table that has a
header. -/
def update (origin : Origin) (change : Node → Option Node) : List String → Node → Option Node
  | [], node => change node
  | key :: path, .branch o entries =>
    let continued? :=
      match entries.lookup key with
      | none => update origin change path (emptyTable origin)
      | some (.branch o' entries') =>
        if origin = Origin.dotted ∧ o' = Origin.header then none
        else update origin change path (.branch o' entries')
      | some (.series (last :: before)) =>
        (update origin change path last).map fun last => .series (last :: before)
      | some _ => none
    continued?.map fun node => .branch o (setEntry entries key node)
  | _, _ => none

/-- Add an entry to a table, which must not have the key. -/
def addEntry (key : String) (node : Node) : Node → Option Node
  | .branch o entries =>
    if (entries.lookup key).isSome then none else some (.branch o ((key, node) :: entries))
  | _ => none

/-- Add a value under a key with dots. The table that it enters must have come about by
such a key. -/
def addValue (path : List String) (key : String) (value : Toml) (node : Node) : Option Node :=
  let add : Node → Option Node
    | .branch o entries =>
      if path = [] ∨ o = Origin.dotted then addEntry key (.leaf value) (.branch o entries) else none
    | _ => none
  update .dotted add path node

/-- Open a table for a header. It must be new or implied. -/
def openTable (key : String) : Node → Option Node
  | .branch o entries =>
    match entries.lookup key with
    | none => some (.branch o ((key, emptyTable .header) :: entries))
    | some (.branch .implied entries') =>
      some (.branch o (setEntry entries key (.branch .header entries')))
    | some _ => none
  | _ => none

/-- Append a table to a list of tables, which is begun if the key is new. -/
def appendTable (key : String) : Node → Option Node
  | .branch o entries =>
    match entries.lookup key with
    | none => some (.branch o ((key, .series [emptyTable .header]) :: entries))
    | some (.series tables) =>
      some (.branch o (setEntry entries key (.series (emptyTable .header :: tables))))
    | some _ => none
  | _ => none

mutual

/-- The value that has been read. -/
def value : Node → Toml
  | .leaf v => v
  | .branch _ entries => .table (entryValues entries)
  | .series tables => .array (values tables).reverse

/-- The values of the entries of a table. -/
def entryValues : List (String × Node) → List (String × Toml)
  | [] => []
  | (key, node) :: rest => (key, value node) :: entryValues rest

/-- The values of some nodes. -/
def values : List Node → List Toml
  | [] => []
  | node :: rest => value node :: values rest

end

end Node

end Toml

end Emend
