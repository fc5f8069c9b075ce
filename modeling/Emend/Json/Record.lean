import Emend.Dict
import Emend.Json.Basic

/-!
# Records in JSON

A record with named fields is read from an object or from an array. In an object the
fields are found by name, whatever their order; members with other names do not count, but
no field may be given twice. In an array they are found by position, and there may be none
beyond the last.

`Json.slots?` finds for every field what is given for it, and a *slot* is then read as its
field asks: a required field, one with a default, or an optional one, which may also be
given as null. An array may end early only before fields that have a default.
-/

namespace Emend

/-- What is given for a field of a record. -/
inductive Slot
  /-- The field has a value. -/
  | given (value : Json)
  /-- An object has no member of that name. -/
  | absent
  /-- An array ends before the field. -/
  | cutOff
deriving Repr

namespace Json

/-- The members of an object, if all names are texts. -/
def named? (members : List (Option String × Json)) : Option (List (String × Json)) :=
  members.mapM fun (key, value) => key.map (·, value)

/-- What the members of an object give for a field, unless they give it twice. -/
def slot? (members : List (String × Json)) (name : String) : Option Slot :=
  match members.filter (fun m => m.1 == name) with
  | [] => some .absent
  | [(_, value)] => some (.given value)
  | _ => none

/-- What a value gives for the fields of a record. -/
def slots? (names : List String) : Json → Option (List Slot)
  | object members => (named? members).bind fun members => names.mapM (slot? members)
  | array values =>
    if values.length ≤ names.length then
      some (values.map .given ++ List.replicate (names.length - values.length) .cutOff)
    else none
  | _ => none

/-! ## Values of basic types -/

/-- Read a text. -/
def toText? : Json → Option String
  | string content => content
  | _ => none

/-- Read a truth value. -/
def toBool? : Json → Option Bool
  | bool b => some b
  | _ => none

/-- Read a finite number. -/
def toFloat? : Json → Option Binary64
  | number n => n.toBinary64?
  | _ => none

/-- Read a list. -/
def toList? {α : Type} (read : Json → Option α) : Json → Option (List α)
  | array values => values.mapM read
  | _ => none

/-- Read one of several names, which may also be given as the name of the only member of
an object, with null for a value. -/
def toTag? : Json → Option String
  | string content => content
  | object [(key, null)] => key
  | _ => none

/-- Read a dictionary. The last one of several members with the same name counts. -/
def toDict? : Json → Option Dict
  | object members => do
    let members ← named? members
    let entries ← members.mapM fun (key, value) => (toText? value).map (key, ·)
    some (Dict.ofList entries)
  | _ => none

/-- Write a list. -/
def ofList {α : Type} (write : α → Json) (xs : List α) : Json := .array (xs.map write)

/-- Write a dictionary. -/
def ofDict (d : Dict) : Json := .object (d.entries.map fun (key, value) => (some key, text value))

end Json

namespace Slot

/-- Read a field that has to be given. -/
def required {α : Type} (read : Json → Option α) : Slot → Option α
  | given value => read value
  | _ => none

/-- Read a field that has a value if none is given. -/
def withDefault {α : Type} (read : Json → Option α) (default : α) : Slot → Option α
  | given value => read value
  | _ => some default

/-- Read a field that may be left out of an object or given as null. -/
def optional {α : Type} (read : Json → Option α) : Slot → Option (Option α)
  | given .null => some none
  | given value => (read value).map some
  | absent => some none
  | cutOff => none

end Slot

end Emend
