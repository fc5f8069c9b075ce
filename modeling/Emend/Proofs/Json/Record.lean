import Emend.Json.Record
import Emend.Proofs.Json.Compact

/-!
# Records are read back

A record is written as an object that leaves out the fields without a value.  As no two fields have
the same name, each of them is found again: given if it had a value, and absent if it had none
(`slots?_record`).  What is left for a record is then to read each of its slots, for which there are
the lemmas on lists, dictionaries and optional fields.

The last part says that all that is written of texts and truth values can be spelled; only a number
could be one that cannot (`IsLegible`).
-/

namespace Emend

/-- The slot of a field that is written with this value, or left out. -/
def Slot.ofOption : Option Json → Slot
  | some value => given value
  | none => absent

namespace Json

/-! ## Records -/

/-- The member that a field is written as, if it has a value. -/
def member? (field : String × Option Json) : Option (String × Json) := field.2.map (field.1, ·)

/-- A record is the object of those of its fields that are there. -/
theorem record_eq (fields : List (String × Option Json)) :
    record fields =
      object ((fields.filterMap member?).map fun (name, value) => (some name, value)) := by
  have hmember : ∀ field : String × Option Json,
      (field.2.map fun value => (some field.1, value)) =
        (member? field).map fun (name, value) => (some name, value) := by
    rintro ⟨name, value?⟩
    cases value? <;> rfl
  rw [record, List.map_filterMap]
  exact congrArg (fun f => object (fields.filterMap f)) (funext hmember)

/-- Members whose names are legible are read with their names. -/
theorem named?_map_some (members : List (String × Json)) :
    named? (members.map fun (name, value) => (some name, value)) = some members :=
  mapM_map_eq_some fun _ _ => rfl

/-- No member has the name of a field that is not there. -/
theorem filter_members_of_not_mem {fields : List (String × Option Json)} {name : String}
    (h : name ∉ fields.map Prod.fst) :
    (fields.filterMap member?).filter (·.1 == name) = [] := by
  rw [List.filter_eq_nil_iff]
  intro m hm heq
  obtain ⟨field, hfield, hvalue⟩ := List.mem_filterMap.mp hm
  obtain ⟨value, -, rfl⟩ := Option.map_eq_some_iff.mp hvalue
  have hname : field.1 = name := eq_of_beq heq
  exact h (hname ▸ List.mem_map_of_mem hfield)

/-- The members with the name of a field are that of the field, if it has a value. -/
theorem filter_members {fields : List (String × Option Json)}
    (hnodup : (fields.map Prod.fst).Nodup) {field : String × Option Json} (h : field ∈ fields) :
    (fields.filterMap member?).filter (·.1 == field.1) = (member? field).toList := by
  induction fields with
  | nil => cases h
  | cons first fields ih =>
      obtain ⟨hfresh, hnodup⟩ := List.nodup_cons.mp hnodup
      have hcons : (first :: fields).filterMap member? =
          (member? first).toList ++ fields.filterMap member? := by
        rw [List.filterMap_cons]
        cases member? first <;> rfl
      rw [hcons, List.filter_append]
      rcases List.mem_cons.mp h with rfl | hmem
      · rw [filter_members_of_not_mem hfresh, List.append_nil, member?]
        cases field.2 <;> simp
      · have hne : first.1 ≠ field.1 := fun heq => hfresh (heq ▸ List.mem_map_of_mem hmem)
        rw [ih hnodup hmem, member?]
        cases first.2 <;> simp [hne]

/-- **The fields of a record are found** under their names. -/
theorem slots?_record {fields : List (String × Option Json)}
    (hnodup : (fields.map Prod.fst).Nodup) :
    (record fields).slots? (fields.map Prod.fst) =
      some (fields.map fun field => .ofOption field.2) := by
  rw [record_eq, slots?, named?_map_some, Option.bind_some, List.mapM_map]
  apply mapM_eq_some_map
  intro field hfield
  rw [Function.comp_apply, slot?, filter_members hnodup hfield, member?]
  cases field.2 <;> rfl

/-! ## Texts, lists and dictionaries -/

theorem toText?_text (s : String) : toText? (text s) = some s := rfl

/-- No text is null. -/
theorem text_ne_null (s : String) : text s ≠ .null := by simp [text]

/-- A list is read back if its elements are. -/
theorem toList?_ofList {α : Type} {read : Json → Option α} {write : α → Json} {xs : List α}
    (h : ∀ x ∈ xs, read (write x) = some x) : toList? read (ofList write xs) = some xs :=
  mapM_map_eq_some h

theorem toTexts?_ofList (xs : List String) : toList? toText? (ofList text xs) = some xs :=
  toList?_ofList fun x _ => toText?_text x

/-- A dictionary is read back from its entries. -/
theorem toDict?_ofDict (d : Dict) : toDict? (ofDict d) = some d := by
  have hmembers : ofDict d = object ((d.entries.map fun e => (e.1, text e.2)).map
      fun (name, value) => (some name, value)) := by
    rw [ofDict, List.map_map]
    rfl
  have hentries : (d.entries.map fun e => (e.1, text e.2)).mapM
      (fun m => (toText? m.2).map (m.1, ·)) = some d.entries :=
    mapM_map_eq_some fun e _ => by rw [toText?_text, Option.map_some]
  rw [hmembers, toDict?, named?_map_some]
  simp only [Option.bind_eq_bind, Option.bind_some, hentries, Dict.ofList_entries]

end Json

/-! ## Optional fields -/

/-- A field that is left out or given is read as unset or set, if nothing is written as null. -/
theorem Slot.optional_ofOption {α : Type} {read : Json → Option α} {write : α → Json}
    (h : ∀ a, read (write a) = some a) (hnull : ∀ a, write a ≠ .null) (x : Option α) :
    (Slot.ofOption (x.map write)).optional read = some x := by
  cases x with
  | none => rfl
  | some a =>
      rw [Option.map_some, Slot.ofOption, Slot.optional, h a, Option.map_some]
      exact hnull a

namespace Json

/-! ## Legible values -/

/-- A text is written with legible tokens. -/
theorem isLegible_text (s : String) : (text s).IsLegible := by
  intro t ht
  obtain rfl := List.mem_singleton.mp ht
  trivial

theorem isLegible_bool (b : Bool) : (bool b).IsLegible := by
  intro t ht
  obtain rfl := List.mem_singleton.mp ht
  trivial

/-- Legible elements are written with legible tokens. -/
theorem isLegible_elementTokens {vs : List Json} (h : ∀ v ∈ vs, v.IsLegible) :
    ∀ t ∈ elementTokens vs, t.IsLegible := by
  induction vs with
  | nil => simp [elementTokens, Token.IsLegible]
  | cons v vs ih =>
      obtain ⟨hv, hvs⟩ := List.forall_mem_cons.mp h
      rw [elementTokens, List.forall_mem_append, List.forall_mem_cons]
      exact ⟨⟨trivial, hv⟩, ih hvs⟩

/-- An array of legible values is legible. -/
theorem isLegible_array {vs : List Json} (h : ∀ v ∈ vs, v.IsLegible) : (array vs).IsLegible := by
  cases vs with
  | nil => simp [IsLegible, tokens, Token.IsLegible]
  | cons v vs =>
      obtain ⟨hv, hvs⟩ := List.forall_mem_cons.mp h
      rw [IsLegible, tokens, List.forall_mem_append, List.forall_mem_cons]
      exact ⟨⟨trivial, hv⟩, isLegible_elementTokens hvs⟩

theorem isLegible_memberTokens {m : Option String × Json} (h : m.2.IsLegible) :
    ∀ t ∈ memberTokens m, t.IsLegible := by
  obtain ⟨key, v⟩ := m
  rw [memberTokens, List.forall_mem_cons, List.forall_mem_cons]
  exact ⟨trivial, trivial, h⟩

theorem isLegible_membersTokens {ms : List (Option String × Json)}
    (h : ∀ m ∈ ms, m.2.IsLegible) : ∀ t ∈ membersTokens ms, t.IsLegible := by
  induction ms with
  | nil => simp [membersTokens, Token.IsLegible]
  | cons m ms ih =>
      obtain ⟨hm, hms⟩ := List.forall_mem_cons.mp h
      rw [membersTokens, List.forall_mem_append, List.forall_mem_cons]
      exact ⟨⟨trivial, isLegible_memberTokens hm⟩, ih hms⟩

/-- An object of legible values is legible. -/
theorem isLegible_object {ms : List (Option String × Json)} (h : ∀ m ∈ ms, m.2.IsLegible) :
    (object ms).IsLegible := by
  cases ms with
  | nil => simp [IsLegible, tokens, Token.IsLegible]
  | cons m ms =>
      obtain ⟨hm, hms⟩ := List.forall_mem_cons.mp h
      rw [IsLegible, tokens, List.forall_mem_append, List.forall_mem_cons]
      exact ⟨⟨trivial, isLegible_memberTokens hm⟩, isLegible_membersTokens hms⟩

/-- A record can be spelled if the values of its fields can. -/
theorem isLegible_record {fields : List (String × Option Json)}
    (h : ∀ field ∈ fields, ∀ value ∈ field.2, value.IsLegible) : (record fields).IsLegible := by
  rw [record_eq]
  apply isLegible_object
  intro m hm
  obtain ⟨⟨name, value⟩, hmember, rfl⟩ := List.mem_map.mp hm
  obtain ⟨field, hfield, hvalue⟩ := List.mem_filterMap.mp hmember
  obtain ⟨value', hvalue', heq⟩ := Option.map_eq_some_iff.mp hvalue
  cases heq
  exact h field hfield value hvalue'

/-- A list is legible if its elements are written legibly. -/
theorem isLegible_ofList {α : Type} {write : α → Json} {xs : List α}
    (h : ∀ x ∈ xs, (write x).IsLegible) : (ofList write xs).IsLegible := by
  apply isLegible_array
  intro v hv
  obtain ⟨x, hx, rfl⟩ := List.mem_map.mp hv
  exact h x hx

/-- The value that an optional field is written with can be spelled. -/
theorem isLegible_of_mem_map {α : Type} {write : α → Json} (h : ∀ a, (write a).IsLegible)
    (x : Option α) : ∀ value ∈ x.map write, value.IsLegible := by
  intro value hvalue
  obtain ⟨a, -, rfl⟩ := Option.map_eq_some_iff.mp hvalue
  exact h a

/-- A dictionary holds texts, so it is legible. -/
theorem isLegible_ofDict (d : Dict) : (ofDict d).IsLegible := by
  apply isLegible_object
  intro m hm
  obtain ⟨⟨key, value⟩, -, rfl⟩ := List.mem_map.mp hm
  exact isLegible_text value

end Json

end Emend
