import Emend.Proofs.Json.Record
import Emend.Proofs.Timestamp
import Emend.Proofs.Uuid
import Emend.Wire.Inference
import Emend.Wire.Vocabulary

/-!
# Nothing is lost on the wire

Whatever is written as JSON is read back as it was.  For a record this comes down to its fields: they
are found again under their names, and each is read as it was written, one that was left out as unset.
Written values hold no number here, so their texts are read back as well, and with that the text of a
value stands for it (`Codec.Lossless`): to write what was read from some text is to bring the text into
a normal form, which means the same and is its own normal form.
-/

namespace Emend

/-! ## Writing and reading texts -/

/-- How the values of a type are written as JSON, and read. -/
structure Codec (α : Type) where
  write : α → Json
  read : Json → Option α

namespace Codec

variable {α : Type} (k : Codec α)

/-- The shortest text of a value. -/
def spell (a : α) : String := (k.write a).compact

/-- The value of a text, if there is one. -/
def understand (text : String) : Option α := (Json.read? text).bind k.read

/-- The text of the value of a text. -/
def rewrite (text : String) : Option String := (k.understand text).map k.spell

/-- Values are not changed by writing and reading, and texts not by reading and writing, but for
their form, and that no more than once. -/
structure Lossless : Prop where
  understand_spell : ∀ a, k.understand (k.spell a) = some a
  understand_rewrite : ∀ text s, k.rewrite text = some s → k.understand s = k.understand text
  rewrite_rewrite : ∀ text s, k.rewrite text = some s → k.rewrite s = some s

variable {k}

/-- A value is read back from its text if it is read back from JSON, as JSON is from its text. -/
theorem understand_spell {a : α} (hread : k.read (k.write a) = some a)
    (hlegible : (k.write a).IsLegible) : k.understand (k.spell a) = some a := by
  rw [understand, spell, Json.read?_compact hlegible, Option.bind_some, hread]

/-- It is enough that values are read back from JSON and that JSON is read back from its text. -/
theorem lossless (hread : ∀ a, k.read (k.write a) = some a) (hlegible : ∀ a, (k.write a).IsLegible) :
    k.Lossless := by
  have hback : ∀ a, k.understand (k.spell a) = some a :=
    fun a => understand_spell (hread a) (hlegible a)
  have hrewrite : ∀ text s, k.rewrite text = some s →
      ∃ a, k.understand text = some a ∧ k.understand s = some a ∧ k.spell a = s := by
    intro text s hs
    obtain ⟨a, ha, rfl⟩ := Option.map_eq_some_iff.mp hs
    exact ⟨a, ha, hback a, rfl⟩
  refine ⟨hback, ?_, ?_⟩
  · intro text s hs
    obtain ⟨a, htext, ha, -⟩ := hrewrite text s hs
    rw [htext, ha]
  · intro text s hs
    obtain ⟨a, -, ha, hspell⟩ := hrewrite text s hs
    rw [rewrite, ha, Option.map_some, hspell]

end Codec

/-! ## Records -/

/-- A field that is set or unset is read as it was written. -/
theorem optional_text (x : Option String) :
    (Slot.ofOption (x.map Json.text)).optional Json.toText? = some x :=
  Slot.optional_ofOption Json.toText?_text Json.text_ne_null x

namespace Uuid

/-- An identifier is read back. -/
theorem ofJson?_toJson (u : Uuid) : ofJson? u.toJson = some u := by
  rw [ofJson?, toJson, Json.toText?_text, Option.bind_some, read?_text]

/-- An identifier is read back where there is one, and none where there is none. -/
theorem optional_toJson (x : Option Uuid) :
    (Slot.ofOption (x.map toJson)).optional ofJson? = some x :=
  Slot.optional_ofOption ofJson?_toJson (fun u => Json.text_ne_null u.text) x

end Uuid

namespace Timestamp

/-- A timestamp is read back. -/
theorem ofJson?_toJson (t : Timestamp) : ofJson? t.toJson = some t := by
  rw [ofJson?, toJson, Json.toText?_text, Option.bind_some, read?_text]

theorem optional_toJson (x : Option Timestamp) :
    (Slot.ofOption (x.map toJson)).optional ofJson? = some x :=
  Slot.optional_ofOption ofJson?_toJson (fun t => Json.text_ne_null t.text) x

end Timestamp

namespace Metadata

/-- The fields of metadata, with nothing where one is left out. -/
theorem slots?_toJson (m : Metadata) :
    m.toJson.slots? ["id", "timestamp", "user_id", "project_path"] =
      some [.ofOption (m.id.map Uuid.toJson), .ofOption (m.timestamp.map Timestamp.toJson),
        .ofOption (m.userId.map Json.text), .ofOption (m.projectPath.map Json.text)] := by
  have hnames : ["id", "timestamp", "user_id", "project_path"].Nodup := by decide
  exact Json.slots?_record hnames

/-- Metadata are read back. -/
theorem ofJson?_toJson (m : Metadata) : ofJson? m.toJson = some m := by
  simp only [ofJson?, slots?_toJson, Uuid.optional_toJson, Timestamp.optional_toJson,
    optional_text, Option.bind_eq_bind, Option.bind_some]

/-- Metadata are legible. -/
theorem isLegible_toJson (m : Metadata) : m.toJson.IsLegible := by
  apply Json.isLegible_record
  simp only [List.forall_mem_cons]
  refine ⟨?_, ?_, ?_, ?_, by simp⟩
  · exact Json.isLegible_of_mem_map (fun u => Json.isLegible_text u.text) m.id
  · exact Json.isLegible_of_mem_map (fun t => Json.isLegible_text t.text) m.timestamp
  · exact Json.isLegible_of_mem_map Json.isLegible_text m.userId
  · exact Json.isLegible_of_mem_map Json.isLegible_text m.projectPath

end Metadata

namespace Command

theorem slots?_toJson (c : Command) :
    c.toJson.slots? ["raw", "intent", "target", "modifiers", "is_valid", "metadata"] =
      some [.given (.text c.raw), .given (.text c.intent), .given (.text c.target),
        .given (.ofDict c.modifiers), .given (.bool c.isValid), .given c.metadata.toJson] := by
  have hnames : ["raw", "intent", "target", "modifiers", "is_valid", "metadata"].Nodup := by decide
  exact Json.slots?_record hnames

/-- A command is read back. -/
theorem ofJson?_toJson (c : Command) : ofJson? c.toJson = some c := by
  simp only [ofJson?, slots?_toJson, Slot.required, Slot.withDefault, Json.toText?_text,
    Json.toDict?_ofDict, Json.toBool?, Metadata.ofJson?_toJson, Option.bind_eq_bind,
    Option.bind_some]

theorem isLegible_toJson (c : Command) : c.toJson.IsLegible := by
  apply Json.isLegible_record
  simp only [List.forall_mem_cons, Option.mem_def, Option.some.injEq, forall_eq']
  exact ⟨Json.isLegible_text _, Json.isLegible_text _, Json.isLegible_text _,
    Json.isLegible_ofDict _, Json.isLegible_bool _, c.metadata.isLegible_toJson, by simp⟩

end Command

namespace InferenceRequest

theorem slots?_toJson (r : InferenceRequest) :
    r.toJson.slots? ["raw", "context", "command_id"] =
      some [.given (.text r.raw), .ofOption (r.context.map Json.text),
        .ofOption (r.commandId.map Uuid.toJson)] := by
  have hnames : ["raw", "context", "command_id"].Nodup := by decide
  exact Json.slots?_record hnames

/-- A request is read back. -/
theorem ofJson?_toJson (r : InferenceRequest) : ofJson? r.toJson = some r := by
  simp only [ofJson?, slots?_toJson, Slot.required, Json.toText?_text, optional_text,
    Uuid.optional_toJson, Option.bind_eq_bind, Option.bind_some]

theorem isLegible_toJson (r : InferenceRequest) : r.toJson.IsLegible := by
  apply Json.isLegible_record
  simp only [List.forall_mem_cons]
  refine ⟨?_, ?_, ?_, by simp⟩
  · simpa using Json.isLegible_text r.raw
  · exact Json.isLegible_of_mem_map Json.isLegible_text r.context
  · exact Json.isLegible_of_mem_map (fun u => Json.isLegible_text u.text) r.commandId

end InferenceRequest

namespace Vocabulary

theorem slots?_toJson (v : Vocabulary) :
    v.toJson.slots? ["program_name", "intents", "target_required", "default_intent", "targets",
        "synonyms"] =
      some [.given (.text v.programName), .given (.ofList .text v.intents),
        .given (.ofList .text v.targetRequired), .given (.text v.defaultIntent),
        .given (.ofList .text v.targets), .given (.ofDict v.synonyms)] := by
  have hnames : ["program_name", "intents", "target_required", "default_intent", "targets",
      "synonyms"].Nodup := by
    decide
  exact Json.slots?_record hnames

/-- A vocabulary is read back. -/
theorem ofJson?_toJson (v : Vocabulary) : ofJson? v.toJson = some v := by
  simp only [ofJson?, slots?_toJson, Slot.withDefault, Json.toText?_text, Json.toTexts?_ofList,
    Json.toDict?_ofDict, Option.bind_eq_bind, Option.bind_some]

theorem isLegible_toJson (v : Vocabulary) : v.toJson.IsLegible := by
  have hlist : ∀ xs : List String, (Json.ofList .text xs).IsLegible := fun xs =>
    Json.isLegible_ofList fun x _ => Json.isLegible_text x
  apply Json.isLegible_record
  simp only [List.forall_mem_cons, Option.mem_def, Option.some.injEq, forall_eq']
  exact ⟨Json.isLegible_text _, hlist _, hlist _, Json.isLegible_text _, hlist _,
    Json.isLegible_ofDict _, by simp⟩

end Vocabulary

/-! ## The round trip -/

/-- **Nothing is lost on the wire** of metadata, commands, requests for inference and vocabularies:
every value is read back from its text, and every text that is read as a value has a normal form, the
text of this value, which is read as the same value and rewritten as itself. -/
theorem wire_lossless :
    (Codec.mk Metadata.toJson Metadata.ofJson?).Lossless ∧
      (Codec.mk Command.toJson Command.ofJson?).Lossless ∧
      (Codec.mk InferenceRequest.toJson InferenceRequest.ofJson?).Lossless ∧
      (Codec.mk Vocabulary.toJson Vocabulary.ofJson?).Lossless :=
  ⟨Codec.lossless Metadata.ofJson?_toJson Metadata.isLegible_toJson,
    Codec.lossless Command.ofJson?_toJson Command.isLegible_toJson,
    Codec.lossless InferenceRequest.ofJson?_toJson InferenceRequest.isLegible_toJson,
    Codec.lossless Vocabulary.ofJson?_toJson Vocabulary.isLegible_toJson⟩

end Emend
