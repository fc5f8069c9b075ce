import Emend.Proofs.Interpreter.Stages
import Emend.Proofs.Repair.DecisionTable

/-!
# What becomes of natural language

Nothing is read from a line that is no token line, so its command has an empty intent, an empty
target and no modifiers.  Under a checked vocabulary the empty word is no intent and close to none,
and three of the strategies let such a command pass.  The fourth looks the empty intent up among
the synonyms, and there a checked vocabulary may have it: normalization drops blank intents and
targets, but a blank synonym becomes the empty word and stays.

`natural_language_outcome` says exactly when natural language is handed over, which is if and only
if no blank synonym stands for an intent that needs no target; otherwise the line is
taken for that intent, whatever it says.
-/

namespace Emend

/-- The empty word is a synonym of an intent that can stand alone. -/
def Vocabulary.HasBlankSynonym (v : Vocabulary) : Prop :=
  ∃ intent, v.synonyms.get? "" = some intent ∧ intent ∉ v.targetRequired

/-- The command of a line from which nothing was read. -/
def Command.unread (input : String) (metadata : Metadata) : Command :=
  (Command.ofRaw input).withMetadata metadata

/-- An interpretation that comes to nothing but a request to the inference service. -/
structure Interpretation.IsHandedOver (r : Interpretation) (request : InferenceRequest) : Prop where
  action : r.action = .failToBackend
  resolved : r.resolved = none
  candidates : r.candidates = []
  finding : r.finding = none
  handoff : r.handoff = some request

theorem lowercase_empty : lowercase "" = "" := lowercase_eq_empty_iff.mpr rfl

/-! ## The empty word in a checked vocabulary -/

namespace Vocabulary

/-- A blank synonym comes from one that is blank as it is written. -/
theorem not_hasBlankSynonym_of_keys {v n : Vocabulary} (hv : v.checked = .ok n)
    (hkeys : ∀ e ∈ v.synonyms.entries, isBlankText e.1 = false) : ¬ n.HasBlankSynonym := by
  intro h
  obtain ⟨intent, hget, -⟩ := h
  obtain ⟨rfl, -⟩ := checked_eq_ok_iff.mp hv
  obtain ⟨e, he, heq⟩ := List.mem_map.mp (Dict.mem_of_get?_ofList hget)
  obtain ⟨hkey, -⟩ := Prod.mk.inj heq
  have hblank := wordKey_eq_empty_iff.mp hkey
  rw [hkeys e he] at hblank
  cases hblank

section

variable {v : Vocabulary} (input : String) (metadata : Metadata)

/-- A command without an intent is not grammatical. -/
theorem validateCommand_unread_ne_ok : v.validateCommand (.unread input metadata) ≠ .ok () := by
  intro h
  exact (validateCommand_eq_ok_iff.mp h).1 rfl

/-- There are no arguments to put in order. -/
theorem Consistent.not_argumentsMisplaced_unread (hv : v.Consistent) :
    ¬ v.ArgumentsMisplaced (.unread input metadata) := by
  intro h
  rcases h with ⟨hintent, -⟩ | ⟨-, hdeclared, -⟩ | ⟨hintent, -⟩
  · exact hintent rfl
  · exact (hv.intent_entry _ hdeclared).1 lowercase_empty
  · exact hintent rfl

/-- There is no intent that could be misspelled. -/
theorem not_intentMisspelled_unread : ¬ v.IntentMisspelled (.unread input metadata) := by
  intro h
  exact h.1 rfl

/-- The empty intent is looked up like any other, and a blank synonym is found for it. -/
theorem intentIsSynonym_unread_iff :
    v.IntentIsSynonym (.unread input metadata) ↔ v.HasBlankSynonym := by
  have hempty : lowercase (Command.unread input metadata).intent = "" := lowercase_empty
  have htarget : (Command.unread input metadata).target = "" := rfl
  unfold IntentIsSynonym HasBlankSynonym
  rw [hempty, htarget]
  simp

end

end Vocabulary

/-! ## The chain -/

/-- A synonym that the command has all that is needed for is replaced, and nothing else changes. -/
theorem Strategy.expandSynonym_eq_some {v : Vocabulary} (hv : v.Consistent) {c : Command}
    {intent : String} (hget : v.synonyms.get? (lowercase c.intent) = some intent)
    (hneeds : c.target ≠ "" ∨ intent ∉ v.targetRequired) :
    ∃ explanation, expandSynonym v c =
      some (.single { c with intent := intent, isValid := true } Confidence.synonymExpansion
        explanation) := by
  have hfix : v.approve (c.restate intent c.target) =
      some { c with intent := intent, isValid := true } :=
    hv.approve_restate c (hv.synonym_declared _ _ hget) hneeds
  have hsynonym : v.synonym? c.intent = some intent := hget
  exact ⟨_, by rw [expandSynonym, hsynonym, Option.bind_some, hfix]; rfl⟩

section

variable {n : Vocabulary} (hn : n.Consistent) (input : String) (metadata : Metadata)

include hn

/-- Without a blank synonym, natural language comes through the chain as it is. -/
theorem ofChain_unread_of_not (h : ¬ n.HasBlankSynonym) :
    RepairResult.ofChain n Strategy.all (.unread input metadata) =
      .unrepaired (.unread input metadata) := by
  rw [RepairResult.ofChain_of_not_valid rfl]
  rcases standard_chain_cases hn (Vocabulary.validateCommand_unread_ne_ok input metadata) with
    ⟨horder, -⟩ | ⟨-, hsynonym, -⟩ | ⟨-, -, htypo, -⟩ | ⟨-, -, -, heq⟩
  · exact absurd horder (hn.not_argumentsMisplaced_unread input metadata)
  · exact absurd ((Vocabulary.intentIsSynonym_unread_iff input metadata).mp hsynonym) h
  · exact absurd htypo (Vocabulary.not_intentMisspelled_unread input metadata)
  · exact heq

/-- A blank synonym of an intent that needs no target is put in the place of natural language. -/
theorem ofChain_unread_of_synonym {intent : String} (hget : n.synonyms.get? "" = some intent)
    (hnot : intent ∉ n.targetRequired) :
    ∃ explanation, RepairResult.ofChain n Strategy.all (.unread input metadata) =
      .ofProposal (.unread input metadata) .synonymExpansion
        (.single { Command.unread input metadata with intent := intent, isValid := true }
          Confidence.synonymExpansion explanation) := by
  have hkey : n.synonyms.get? (lowercase (Command.unread input metadata).intent) = some intent := by
    rw [← hget]
    exact congrArg _ lowercase_empty
  obtain ⟨explanation, hexpand⟩ := Strategy.expandSynonym_eq_some hn hkey (Or.inr hnot)
  have hattempt : Strategy.synonymExpansion.attempt n (.unread input metadata) = _ := hexpand
  have hinvalid : n.validateCommand (.unread input metadata) ≠ .ok () :=
    Vocabulary.validateCommand_unread_ne_ok input metadata
  have hbefore : ∀ t ∈ [Strategy.flagNormalization, .argumentOrder],
      t.attempt n (.unread input metadata) = none := by
    intro t ht
    rcases List.mem_pair.mp ht with rfl | rfl
    · exact Strategy.normalizeModifiers_eq_none hinvalid
    · rw [← Option.not_isSome_iff_eq_none]
      intro hsome
      exact hn.not_argumentsMisplaced_unread input metadata
        ((Strategy.orderArguments_isSome_iff hn).mp hsome)
  refine ⟨explanation, ?_⟩
  rw [RepairResult.ofChain_of_not_valid rfl]
  exact tryStrategies_of_first hbefore hattempt

end

/-! ## The outcome -/

namespace Interpreter

/-- A line that is no token line is interpreted by what the chain makes of an empty command. -/
theorem interpret_natural_language (i : Interpreter) {input : String}
    (hinput : isBlankText input = false)
    (hform : ¬ ∃ first others,
      Line.IsTokenLine i.vocabulary.programName.toList (trim input.toList) first others)
    (metadata : Metadata) :
    i.interpret input metadata = .ok (i.conclude ⟨.ofRaw input, .naturalLanguage, none⟩
      (.unread input metadata)
      (RepairResult.ofChain i.vocabulary Strategy.all (.unread input metadata)).decided) := by
  obtain ⟨p, hread, hinterpret⟩ := i.exists_interpret hinput metadata
  rcases Line.read_cases i.vocabulary hinput with ⟨-, hnatural⟩ | ⟨parts, hsplit, -⟩
  · rw [hnatural] at hread
    cases hread
    exact hinterpret
  · exact absurd (Line.exists_isTokenLine hsplit) hform

/-- What is not repaired is handed over. -/
theorem isHandedOver_unrepaired (i : Interpreter) (p : ParsedLine) (c : Command) :
    (i.conclude p c (RepairResult.unrepaired c).decided).IsHandedOver (i.request c) := by
  have haction : (RepairResult.unrepaired c).decided.action = .failToBackend :=
    (inState_unrepaired c).action_eq
  refine ⟨haction, rfl, rfl, rfl, ?_⟩
  rw [handoff_conclude, if_pos haction]

end Interpreter

/-- **When natural language is handed over.**  Under a checked vocabulary, a line that is neither
blank nor a token line is handed to the inference service as it was typed, and nothing is proposed
for it, exactly if no blank synonym stands for an intent that can stand alone; a vocabulary that
is written without blank synonyms has none.  Where there is one the line is taken for its intent. -/
theorem natural_language_outcome {v n : Vocabulary} {input : String} (hv : v.checked = .ok n)
    (hinput : isBlankText input = false)
    (hform : ¬ ∃ first others,
      Line.IsTokenLine n.programName.toList (trim input.toList) first others)
    (backend : InferenceBackend) (context : Option String) (metadata : Metadata) :
    ∃ r, (Interpreter.mk n backend context).interpret input metadata = .ok r ∧
      r.form = .naturalLanguage ∧
      (r.IsHandedOver ⟨input, context, metadata.id⟩ ↔ ¬ n.HasBlankSynonym) ∧
      ((∀ e ∈ v.synonyms.entries, isBlankText e.1 = false) →
        r.IsHandedOver ⟨input, context, metadata.id⟩) ∧
      (∀ intent, n.synonyms.get? "" = some intent → intent ∉ n.targetRequired →
        r.action = .autoCorrect ∧ r.handoff = none ∧
          r.resolved = some { Command.unread input metadata with
            intent := intent, isValid := true }) := by
  have hn : n.Consistent := Vocabulary.checked_consistent hv
  refine ⟨_, Interpreter.interpret_natural_language ⟨n, backend, context⟩ hinput hform metadata,
    rfl, ?_⟩
  by_cases hsynonym : n.HasBlankSynonym
  · obtain ⟨intent, hget, hnot⟩ := hsynonym
    obtain ⟨explanation, heq⟩ := ofChain_unread_of_synonym hn input metadata hget hnot
    have haction : (RepairResult.ofChain n Strategy.all
        (.unread input metadata)).decided.action = .autoCorrect := by
      rw [heq]
      exact (inState_single _ _ List.mem_cons_self explanation).action_eq
    refine ⟨?_, ?_, ?_⟩
    · apply iff_of_false _ (not_not.mpr ⟨intent, hget, hnot⟩)
      intro hhanded
      have htwo := haction.symm.trans hhanded.action
      cases htwo
    · intro hkeys
      exact absurd ⟨intent, hget, hnot⟩ (Vocabulary.not_hasBlankSynonym_of_keys hv hkeys)
    · intro intent' hget' _
      rw [hget, Option.some_inj] at hget'
      subst hget'
      refine ⟨haction, ?_, ?_⟩
      · rw [Interpreter.handoff_conclude, if_neg]
        rw [haction]
        decide
      show (RepairResult.ofChain n Strategy.all (.unread input metadata)).repaired = _
      rw [heq]
      rfl
  · have hhanded := Interpreter.isHandedOver_unrepaired ⟨n, backend, context⟩
      ⟨.ofRaw input, .naturalLanguage, none⟩ (.unread input metadata)
    rw [← ofChain_unread_of_not hn input metadata hsynonym] at hhanded
    refine ⟨iff_of_true hhanded hsynonym, fun _ => hhanded, ?_⟩
    intro intent hget hnot
    exact absurd ⟨intent, hget, hnot⟩ hsynonym

/-- A question to the program of the built-in vocabulary is handed over. -/
theorem natural_language_outcome_health :
    (Vocabulary.builtIn.checked = .ok .builtIn ∧
      isBlankText "please tell me the project health" = false ∧
      (¬ ∃ first others, Line.IsTokenLine Vocabulary.builtIn.programName.toList
        (trim "please tell me the project health".toList) first others) ∧
      ∀ e ∈ Vocabulary.builtIn.synonyms.entries, isBlankText e.1 = false) ∧
    ∃ r, (Interpreter.mk .builtIn .offline none).interpret "please tell me the project health" {} =
        .ok r ∧
      r.IsHandedOver ⟨"please tell me the project health", none, none⟩ := by
  have hinput : isBlankText "please tell me the project health" = false := by decide +kernel
  have hform : ¬ ∃ first others, Line.IsTokenLine Vocabulary.builtIn.programName.toList
      (trim "please tell me the project health".toList) first others := by
    rw [Line.exists_isTokenLine_iff]
    decide +kernel
  have hkeys : ∀ e ∈ Vocabulary.builtIn.synonyms.entries, isBlankText e.1 = false := by
    decide +kernel
  obtain ⟨r, hr, -, -, hhanded, -⟩ :=
    natural_language_outcome Vocabulary.builtIn_checked hinput hform .offline none {}
  exact ⟨⟨Vocabulary.builtIn_checked, hinput, hform, hkeys⟩, r, hr, hhanded hkeys⟩

/-- Under a vocabulary with a blank synonym, which passes the check as it stands, the same question
is taken for a command. -/
theorem natural_language_guessed :
    let v : Vocabulary := { Vocabulary.builtIn with synonyms := .ofList [("", "status")] }
    v.checked = .ok v ∧ isBlankText "please tell me the project health" = false ∧
      (¬ ∃ first others, Line.IsTokenLine v.programName.toList
        (trim "please tell me the project health".toList) first others) ∧
      ∃ r, (Interpreter.mk v .offline none).interpret "please tell me the project health" {} =
          .ok r ∧
        r.action = .autoCorrect ∧ r.finding = some (.strategy .synonymExpansion) ∧
        r.resolved = some { Command.unread "please tell me the project health" {} with
          intent := "status", isValid := true } ∧
        r.handoff = none := by
  intro v
  have hinterpret : ((Interpreter.mk v .offline none).interpret "please tell me the project health"
      {}).toOption.map (fun r => (r.action, r.finding, r.resolved, r.handoff)) =
        some (.autoCorrect, some (.strategy .synonymExpansion),
          some { Command.unread "please tell me the project health" {} with
            intent := "status", isValid := true }, none) := by
    decide +kernel
  refine ⟨by decide +kernel, by decide +kernel, ?_, ?_⟩
  · rw [Line.exists_isTokenLine_iff]
    decide +kernel
  · cases hr : (Interpreter.mk v .offline none).interpret "please tell me the project health"
        {} with
    | error e =>
        rw [hr] at hinterpret
        cases hinterpret
    | ok r =>
        rw [hr] at hinterpret
        simp only [Except.toOption, Option.map_some, Option.some.injEq, Prod.mk.injEq] at hinterpret
        exact ⟨r, rfl, hinterpret⟩

end Emend
