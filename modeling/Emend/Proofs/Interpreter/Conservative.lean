import Emend.Proofs.Interpreter.Stages

/-!
# What a repair of a typed line leaves alone

A line is read with the mark that the grammar gives it, so the strategies are only ever tried on a
command that is not grammatical.  For such a command some of them can do less than they are made for.
Modifiers have no part in the grammar, so bringing them to their normal form does not make it
grammatical (`Proposes.ne_flagNormalization`).  And if its intent is declared it lacks a target,
so there is no target that could be corrected on its own (`Reading.unknown_of_typo`).

`interpret_conservative` says what this means for the user: the modifiers of everything that is
proposed are those that were typed, a line is taken with full confidence exactly if it is
grammatical as it stands, and a correction always puts a declared intent in the place of one that is
not.
-/

namespace Emend

/-! ## Proposals for a command that is not grammatical -/

section

variable {v : Vocabulary} {c : Command} {s : Strategy} {p : Proposal}

/-- Bringing the modifiers into form makes no command grammatical, so it is not what is proposed. -/
theorem Proposes.ne_flagNormalization (h : Proposes v c s p)
    (hinvalid : v.validateCommand c ≠ .ok ()) : s ≠ .flagNormalization := by
  obtain ⟨d, hd⟩ := List.exists_mem_of_ne_nil _ h.commands_ne_nil
  exact (h.isRepairOf d hd).ne_flagNormalization hinvalid

/-- The modifiers of what is proposed are those that were typed. -/
theorem Proposes.modifiers_eq (h : Proposes v c s p) (hinvalid : v.validateCommand c ≠ .ok ()) :
    ∀ d ∈ p.commands, d.modifiers = c.modifiers := by
  intro d hd
  exact (h.isRepairOf d hd).modifiers (h.ne_flagNormalization hinvalid)

/-- A command is corrected only if its intent is not declared. -/
theorem Reading.unknown_of_typo (hv : v.Consistent) (hinvalid : v.validateCommand c ≠ .ok ())
    {r : Command} (h : Reading v c .typoCorrection r) : lowercase c.intent ∉ v.intents := by
  cases h with
  | intentCorrected hintent _ _ => exact (Strategy.intentMatches?_eq_some hintent).1
  | targetCorrected _ htarget _ =>
      intro hdeclared
      have hpresent := (Strategy.targetMatches?_eq_some htarget).1
      exact hpresent (hv.target_eq_empty hdeclared hinvalid)
  | bothCorrected hintent _ _ _ => exact (Strategy.intentMatches?_eq_some hintent).1

/-- Where a correction is proposed, the intent was no declared one. -/
theorem Proposes.unknown_of_typo (hv : v.Consistent) (hinvalid : v.validateCommand c ≠ .ok ())
    (h : Proposes v c .typoCorrection p) : v.isIntent c.intent = false := by
  obtain ⟨d, hd⟩ := List.exists_mem_of_ne_nil _ h.commands_ne_nil
  obtain ⟨r, hreading, -⟩ := h.exists_reading hd
  rw [← Bool.not_eq_true, Vocabulary.isIntent_iff]
  exact hreading.unknown_of_typo hv hinvalid

/-- Whatever is proposed has a declared intent. -/
theorem Proposes.isIntent (h : Proposes v c s p) : ∀ d ∈ p.commands, v.isIntent d.intent = true := by
  intro d hd
  have hgrammatical := (h.isRepairOf d hd).grammatical
  exact Vocabulary.isIntent_iff.mpr (Vocabulary.validateCommand_eq_ok_iff.mp hgrammatical).2.1

end

/-! ## Results -/

/-- A result that leaves alone what is in order: the modifiers always, a command that was known to be
grammatical altogether, and the intent unless it is not declared. -/
structure RepairResult.IsConservative (r : RepairResult) (v : Vocabulary) : Prop where
  finding : r.finding ≠ some (.strategy .flagNormalization)
  modifiers : ∀ d ∈ r.commands, d.modifiers = r.submitted.modifiers
  full_iff : r.confidence = Confidence.hundredths 100 ↔ r.finding = some .alreadyValid
  unchanged : r.finding = some .alreadyValid → r.repaired = some r.submitted
  typo : r.finding = some (.strategy .typoCorrection) →
    v.isIntent r.submitted.intent = false ∧ ∀ d ∈ r.commands, v.isIntent d.intent = true

section

variable {v : Vocabulary} {c : Command}

/-- A command that is known to be grammatical is left alone. -/
theorem isConservative_ofValid (v : Vocabulary) (c : Command) :
    (RepairResult.ofValid c).IsConservative v where
  finding := by simp [RepairResult.ofValid]
  modifiers := fun d hd => by rw [List.mem_singleton.mp hd]; rfl
  full_iff := iff_of_true rfl rfl
  unchanged := fun _ => rfl
  typo := fun hfinding => by simp [RepairResult.ofValid] at hfinding

/-- A repair that came to nothing leaves everything alone. -/
theorem isConservative_unrepaired (v : Vocabulary) (c : Command) :
    (RepairResult.unrepaired c).IsConservative v where
  finding := by simp
  modifiers := fun d hd => by cases hd
  full_iff := iff_of_false levelsInBands.unrepaired_ne_full (by simp)
  unchanged := fun hfinding => by simp at hfinding
  typo := fun hfinding => by simp at hfinding

/-- What is proposed for a command that is not grammatical leaves alone what it should. -/
theorem Proposes.isConservative {s : Strategy} {p : Proposal} (h : Proposes v c s p)
    (hv : v.Consistent) (hinvalid : v.validateCommand c ≠ .ok ()) :
    (RepairResult.ofProposal c s p).IsConservative v where
  finding := by
    rw [RepairResult.finding_ofProposal]
    simpa using h.ne_flagNormalization hinvalid
  modifiers := by
    rw [RepairResult.commands_ofProposal, RepairResult.submitted_ofProposal]
    exact h.modifiers_eq hinvalid
  full_iff := iff_of_false h.confidence_ne_full (by simp)
  unchanged := fun hfinding => by simp at hfinding
  typo := by
    rw [RepairResult.finding_ofProposal, RepairResult.commands_ofProposal,
      RepairResult.submitted_ofProposal]
    intro hfinding
    obtain rfl : s = .typoCorrection := by simpa using hfinding
    exact ⟨h.unknown_of_typo hv hinvalid, h.isIntent⟩

/-- What a chain comes to is conservative if it is tried on no command that is grammatical. -/
theorem isConservative_ofChain (hv : v.Consistent)
    (hmark : c.isValid = false → v.validateCommand c ≠ .ok ()) (strategies : List Strategy) :
    (RepairResult.ofChain v strategies c).IsConservative v := by
  cases hvalid : c.isValid with
  | true =>
      rw [RepairResult.ofChain_of_valid hvalid]
      exact isConservative_ofValid v c
  | false =>
      rw [RepairResult.ofChain_of_not_valid hvalid]
      rcases tryStrategies_proposes v c strategies with heq | ⟨s, -, p, hproposes, heq⟩
      · rw [heq]
        exact isConservative_unrepaired v c
      · rw [heq]
        exact hproposes.isConservative hv (hmark hvalid)

/-- A command is found to be grammatical only by its mark. -/
theorem finding_ofChain_iff (strategies : List Strategy) :
    (RepairResult.ofChain v strategies c).finding = some .alreadyValid ↔ c.isValid = true := by
  have hagrees := agrees_ofChain v strategies c
  refine ⟨?_, fun hvalid => (hagrees.valid hvalid).2⟩
  intro hfinding
  by_contra hmark
  rw [Bool.not_eq_true] at hmark
  rcases hagrees.level hmark with hunrepaired | ⟨s, -, hs, -⟩
  · have hnone := hunrepaired.2.2.2.1
    rw [RepairResult.result_decided, hfinding] at hnone
    cases hnone
  · rw [RepairResult.result_decided, hfinding] at hs
    cases hs

end

/-! ## Interpretations -/

/-- The result of the repair, as it is found in an interpretation. -/
def Interpretation.result (r : Interpretation) : RepairResult where
  submitted := r.submitted
  repaired := r.resolved
  confidence := r.confidence
  explanation := r.explanation
  candidates := r.candidates
  finding := r.finding

/-- **A typed line is repaired conservatively.**  Under a checked vocabulary every line that is not
blank is interpreted, the result leaves alone what is in order, and the command was known to be
grammatical exactly if the line is structured and has no error. -/
theorem interpret_conservative {v n : Vocabulary} {input : String} (hv : v.checked = .ok n)
    (hinput : isBlankText input = false) (backend : InferenceBackend) (context : Option String)
    (metadata : Metadata) :
    ∃ r, (Interpreter.mk n backend context).interpret input metadata = .ok r ∧
      r.result.IsConservative n ∧
      (r.finding = some .alreadyValid ↔ r.form = .structured ∧ r.grammarError = none) := by
  have hn : n.Consistent := Vocabulary.checked_consistent hv
  obtain ⟨p, hread, hinterpret⟩ :=
    (Interpreter.mk n backend context).exists_interpret hinput metadata
  obtain ⟨hstructured, hgrammatical⟩ := Line.mark_of_read hinput hread
  have hmark : (p.command.withMetadata metadata).isValid = false →
      n.validateCommand (p.command.withMetadata metadata) ≠ .ok () := by
    intro hnot hvalid
    have hset : p.command.isValid = true := hgrammatical.mpr hvalid
    exact Bool.false_ne_true (hnot.symm.trans hset)
  refine ⟨_, hinterpret, isConservative_ofChain hn hmark Strategy.all, ?_⟩
  exact (finding_ofChain_iff Strategy.all).trans hstructured

/-- The intent is corrected together with a target that can mean two things, and both candidates
have the modifier in the form in which it was typed. -/
theorem interpret_conservative_anlyze :
    (Vocabulary.builtIn.checked = .ok .builtIn ∧
      isBlankText "mender anlyze rild --Output-File=TRUE" = false) ∧
    ∃ r, (Interpreter.mk .builtIn .offline none).interpret
        "mender anlyze rild --Output-File=TRUE" {} = .ok r ∧
      r.result.IsConservative .builtIn ∧
      (r.finding = some .alreadyValid ↔ r.form = .structured ∧ r.grammarError = none) ∧
      r.finding = some (.strategy .typoCorrection) ∧
      r.candidates.map (fun d => (d.target, d.modifiers.entries)) =
        [("risk", [("Output-File", "TRUE")]), ("build", [("Output-File", "TRUE")])] := by
  have hinput : isBlankText "mender anlyze rild --Output-File=TRUE" = false := by decide +kernel
  have hcandidates : ((Interpreter.mk .builtIn .offline none).interpret
      "mender anlyze rild --Output-File=TRUE" {}).toOption.map (fun r =>
        (r.finding, r.candidates.map (fun d => (d.target, d.modifiers.entries)))) =
      some (some (.strategy .typoCorrection),
        [("risk", [("Output-File", "TRUE")]), ("build", [("Output-File", "TRUE")])]) := by
    decide +kernel
  obtain ⟨r, hr, hconservative, hform⟩ :=
    interpret_conservative Vocabulary.builtIn_checked hinput .offline none {}
  rw [hr] at hcandidates
  simp only [Except.toOption, Option.map_some, Option.some.injEq, Prod.mk.injEq] at hcandidates
  exact ⟨⟨Vocabulary.builtIn_checked, hinput⟩, r, hr, hconservative, hform, hcandidates⟩

end Emend
