import Emend.Proofs.Repair.Decision
import Emend.Proofs.Wire.RoundTrip
import Emend.Wire.Repair

/-!
# Nothing of a repair is lost on the wire

A result holds commands, which are read back as they were, and a confidence, which is a binary number
written in decimal.  Not every confidence that could stand there need survive this, so a result is
read back if its own does (`RepairResult.understand_spell`).  All confidences that repairs have are
hundredths on a short scale (`Confidence.levels`), and each of these is spelled by its two digits and
read as the number nearest to them, which it is.

A result comes in three shapes, and leaves out the repaired command or the finding where it has none;
`repair_survives_wire` says that none of them is taken for another.
-/

namespace Emend

/-! ## Confidences -/

/-- A number that is read back from its decimal. -/
structure Binary64.SurvivesWire (x : Binary64) : Prop where
  legible : (Numeral.ofBinary64 x).IsLegible
  toBinary64? : (Numeral.ofBinary64 x).toBinary64? = some x

namespace Numeral

/-- What makes a numeral legible, as a single statement that can be decided. -/
theorem isLegible_iff {n : Numeral} :
    n.IsLegible ↔ (∀ d ∈ n.whole, d < 10) ∧ n.whole ≠ [] ∧
      (n.whole.head? = some 0 → n.whole = [0]) ∧ (∀ d ∈ n.fraction, d < 10) ∧
      (∀ d ∈ n.exponent, d < 10) ∧ (n.exponent = [] → n.exponentNegative = false) :=
  ⟨fun h => ⟨h.whole_lt, h.whole_ne, h.whole_zero, h.fraction_lt, h.exponent_lt, h.exponent_sign⟩,
    fun ⟨h₁, h₂, h₃, h₄, h₅, h₆⟩ => ⟨h₁, h₂, h₃, h₄, h₅, h₆⟩⟩

instance (n : Numeral) : Decidable n.IsLegible := decidable_of_iff' _ isLegible_iff

end Numeral

instance (x : Binary64) : Decidable x.SurvivesWire :=
  decidable_of_iff ((Numeral.ofBinary64 x).IsLegible ∧
      (Numeral.ofBinary64 x).toBinary64? = some x)
    ⟨fun h => ⟨h.1, h.2⟩, fun h => ⟨h.1, h.2⟩⟩

namespace Confidence

/-- The scale of confidences. -/
def levels : List Binary64 := [100, 98, 95, 85, 70, 60, 0].map hundredths

/-- **The confidences of repairs survive**: each is read back as the number that it was. -/
theorem survivesWire_of_mem_levels : ∀ x ∈ levels, x.SurvivesWire := by decide +kernel

/-- The confidences of single commands are among the levels. -/
theorem fixLevels_subset (s : Strategy) : ∀ x ∈ s.fixLevels, x ∈ levels := by
  cases s <;> decide +kernel

theorem optionLevels_subset (s : Strategy) : ∀ x ∈ s.optionLevels, x ∈ levels := by
  cases s <;> decide +kernel

end Confidence

/-! ## Results -/

/-- A finding is read back from its name. -/
theorem Finding.ofJson?_toJson (f : Finding) : ofJson? f.toJson = some f := by
  cases f with
  | alreadyValid => rfl
  | strategy s => cases s <;> rfl

/-- A finding is read back where there is one, and none where there is none. -/
theorem Finding.optional_toJson (x : Option Finding) :
    (Slot.ofOption (x.map toJson)).optional ofJson? = some x :=
  Slot.optional_ofOption ofJson?_toJson (fun f => Json.text_ne_null f.name) x

theorem Command.optional_toJson (x : Option Command) :
    (Slot.ofOption (x.map toJson)).optional ofJson? = some x :=
  Slot.optional_ofOption ofJson?_toJson (fun c => by simp [toJson, Json.record]) x

namespace RepairResult

/-- How results are written and read. -/
def codec : Codec RepairResult := ⟨toJson, ofJson?⟩

/-- What is written of a result: the repaired command and the finding if there are any, and the
candidates in any case. -/
theorem slots?_toJson (r : RepairResult) :
    r.toJson.slots? ["original", "repaired", "confidence", "explanation", "candidates",
        "strategy"] =
      some [.given r.submitted.toJson, .ofOption (r.repaired.map Command.toJson),
        .given (.float r.confidence), .given (.text r.explanation),
        .given (.ofList Command.toJson r.candidates),
        .ofOption (r.finding.map Finding.toJson)] := by
  have hnames : ["original", "repaired", "confidence", "explanation", "candidates",
      "strategy"].Nodup := by
    decide
  exact Json.slots?_record hnames

/-- A result is read back if its confidence is. -/
theorem ofJson?_toJson {r : RepairResult} (h : r.confidence.SurvivesWire) :
    ofJson? r.toJson = some r := by
  have hconfidence : Json.toFloat? (.float r.confidence) = some r.confidence := h.toBinary64?
  have hcandidates : Json.toList? Command.ofJson? (.ofList Command.toJson r.candidates) =
      some r.candidates := Json.toList?_ofList fun c _ => c.ofJson?_toJson
  simp only [ofJson?, slots?_toJson, Slot.required, Slot.withDefault, Command.ofJson?_toJson,
    Command.optional_toJson, hconfidence, Json.toText?_text, hcandidates, Finding.optional_toJson,
    Option.bind_eq_bind, Option.bind_some]

/-- A result is legible if its confidence is. -/
theorem isLegible_toJson {r : RepairResult} (h : r.confidence.SurvivesWire) :
    r.toJson.IsLegible := by
  have hconfidence : (Json.float r.confidence).IsLegible := by
    intro t ht
    obtain rfl := List.mem_singleton.mp ht
    exact h.legible
  apply Json.isLegible_record
  simp only [List.forall_mem_cons]
  refine ⟨?_, ?_, ?_, ?_, ?_, ?_, by simp⟩
  · simpa using r.submitted.isLegible_toJson
  · exact Json.isLegible_of_mem_map Command.isLegible_toJson r.repaired
  · simpa using hconfidence
  · simpa using Json.isLegible_text r.explanation
  · simpa using Json.isLegible_ofList fun c _ => c.isLegible_toJson
  · exact Json.isLegible_of_mem_map (fun f => Json.isLegible_text f.name) r.finding

/-- A result is read back from its text if its confidence is. -/
theorem understand_spell {r : RepairResult} (h : r.confidence.SurvivesWire) :
    codec.understand (codec.spell r) = some r :=
  Codec.understand_spell (ofJson?_toJson h) (isLegible_toJson h)

/-- The confidence of what a strategy proposes is on the scale. -/
theorem confidence_mem_of_proposes {v : Vocabulary} {c : Command} {s : Strategy} {p : Proposal}
    (h : Proposes v c s p) : (ofProposal c s p).confidence ∈ Confidence.levels := by
  cases h with
  | single _ _ hlevel => exact Confidence.fixLevels_subset s _ hlevel
  | options _ _ hlevel => exact Confidence.optionLevels_subset s _ hlevel

/-- **Every repair has a confidence of the scale.** -/
theorem confidence_ofChain_mem (v : Vocabulary) (strategies : List Strategy) (c : Command) :
    (ofChain v strategies c).confidence ∈ Confidence.levels := by
  have hfull : Confidence.alreadyValid ∈ Confidence.levels := by decide +kernel
  have hnone : Confidence.unrepaired ∈ Confidence.levels := by decide +kernel
  cases hmark : c.isValid with
  | true =>
      rw [ofChain_of_valid hmark]
      exact hfull
  | false =>
      rw [ofChain_of_not_valid hmark]
      rcases tryStrategies_proposes v c strategies with heq | ⟨s, -, p, hproposes, heq⟩
      · rw [heq]
        exact hnone
      · rw [heq]
        exact confidence_mem_of_proposes hproposes

end RepairResult

/-- **Repairs survive the wire**: whatever a repair of a command comes to, under any vocabulary and
by any chain, its confidence is on the scale, and it is read back from its text as it was. -/
theorem repair_survives_wire (v : Vocabulary) (strategies : List Strategy) {c : Command}
    (hblank : c.isBlank = false) :
    ∃ r, repair v strategies c = .ok r ∧ r.confidence ∈ Confidence.levels ∧
      RepairResult.codec.understand (RepairResult.codec.spell r) = some r := by
  have hlevel := RepairResult.confidence_ofChain_mem v strategies c
  have hsurvives := Confidence.survivesWire_of_mem_levels _ hlevel
  exact ⟨_, repair_eq_ok hblank, hlevel, RepairResult.understand_spell hsurvives⟩

/-- Two candidates for a command with quotes and a line break in it, which was sent at a time read in
another zone. -/
theorem repair_survives_wire_plst :
    let c : Command :=
      { raw := "mender plst project", intent := "plst", target := "project",
        modifiers := .ofList [("note", "a \"b\"\n")],
        metadata := { timestamp := Timestamp.read? "2024-06-14T03:02:03.5+02:00" } }
    c.metadata.timestamp.isSome = true ∧ c.isBlank = false ∧
      ∃ r, repair .builtIn Strategy.all c = .ok r ∧
        RepairResult.codec.understand (RepairResult.codec.spell r) = some r ∧
        r.candidates.map (·.intent) = ["test", "plan"] := by
  intro c
  have hblank : c.isBlank = false := by decide +kernel
  obtain ⟨r, hr, -, hwire⟩ := repair_survives_wire .builtIn Strategy.all hblank
  have hcandidates : (repair .builtIn Strategy.all c).toOption.map
      (·.candidates.map (·.intent)) = some ["test", "plan"] := by decide +kernel
  rw [hr] at hcandidates
  exact ⟨by decide +kernel, hblank, r, hr, hwire, Option.some.inj hcandidates⟩

end Emend
