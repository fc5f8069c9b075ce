import Emend.Proofs.Interpreter.NaturalLanguage

/-!
# The outcome of a line

The reader, the strategies, the policy and the inference service each put something into an
interpretation, and its exit code is computed from it once more.  They agree: a line that is blank is
refused and no other line is, and what comes of any other is one of three things, never two of them.
There is a command to go on with (`IsTaken`), there are commands to choose from (`IsShown`), or there
is none and the service was asked about the line as it was typed (`IsForwarded`).

`interpret_outcome` says so of every interpreter, whatever its vocabulary and its service.  That the
outcomes exclude each other is easy, as each fixes what is done.  That there is one comes from the
state of the decision (`hasOutcome_conclude`), and that all commands in it are grammatical from
the mark with which the line was read.
-/

namespace Emend

namespace Interpretation

/-- There is one command, to go on with. -/
structure IsTaken (r : Interpretation) (v : Vocabulary) : Prop where
  action : r.action = .autoCorrect
  resolved : ∃ d, r.resolved = some d ∧ d.isValid = true ∧ v.validateCommand d = .ok ()
  candidates : r.candidates = []
  handoff : r.handoff = none
  inferred : r.inferred = none
  exitCode : r.exitCode = 0

/-- There are commands to choose from. -/
structure IsShown (r : Interpretation) (v : Vocabulary) : Prop where
  action : r.action = .presentOptions
  resolved : r.resolved = none
  candidates : r.candidates ≠ []
  grammatical : ∀ d ∈ r.candidates, d.isValid = true ∧ v.validateCommand d = .ok ()
  handoff : r.handoff = none
  inferred : r.inferred = none
  exitCode : r.exitCode = 2

/-- There is no command, and the service was asked for one. -/
structure IsForwarded (r : Interpretation) (backend : InferenceBackend)
    (request : InferenceRequest) : Prop extends r.IsHandedOver request where
  inferred : r.inferred = backend request
  exitCode : r.exitCode = if (backend request).isSome then 0 else 3

/-- The outcomes of a line, by what is done. -/
def HasOutcome (r : Interpretation) (v : Vocabulary) (backend : InferenceBackend)
    (request : InferenceRequest) : Action → Prop
  | .autoCorrect => r.IsTaken v
  | .presentOptions => r.IsShown v
  | .failToBackend => r.IsForwarded backend request

section

variable {r : Interpretation} {v : Vocabulary} {backend : InferenceBackend}
  {request : InferenceRequest} {a : Action}

theorem HasOutcome.action_eq (h : r.HasOutcome v backend request a) : r.action = a := by
  cases a with
  | autoCorrect => exact h.action
  | presentOptions => exact h.action
  | failToBackend => exact h.action

/-- What comes of a line is no more than one of the outcomes, as each fixes what is done. -/
theorem HasOutcome.existsUnique (h : r.HasOutcome v backend request a) :
    ∃! b, r.HasOutcome v backend request b := by
  refine ⟨a, h, ?_⟩
  intro b hb
  rw [← hb.action_eq, h.action_eq]

end

end Interpretation

namespace Interpreter

section

variable (i : Interpreter) (p : ParsedLine) (c : Command) {d : RepairDecision}

/-- Nothing goes to the service if something else is done. -/
theorem handoff_conclude_of_ne (h : d.action ≠ .failToBackend) :
    (i.conclude p c d).handoff = none ∧ (i.conclude p c d).inferred = none := by
  have hhandoff : (i.conclude p c d).handoff = none := by rw [handoff_conclude, if_neg h]
  refine ⟨hhandoff, ?_⟩
  rw [inferred_conclude, hhandoff]
  rfl

/-- Each state of a decision leads to the outcome of that name. -/
theorem hasOutcome_conclude {a : Action} (hstate : d.InState a)
    (hcommands : ∀ e ∈ d.result.commands,
      e.isValid = true ∧ i.vocabulary.validateCommand e = .ok ()) :
    (i.conclude p c d).HasOutcome i.vocabulary i.backend (i.request c) a := by
  have haction : (i.conclude p c d).action = a := hstate.action_eq
  cases a with
  | autoCorrect =>
      obtain ⟨hrepaired, hcandidates, hdone⟩ := hstate
      obtain ⟨e, he⟩ := Option.ne_none_iff_exists'.mp hrepaired
      obtain ⟨hhandoff, hinferred⟩ := i.handoff_conclude_of_ne p c (d := d) (by simp [hdone])
      exact
        { action := haction
          resolved := ⟨e, he, hcommands e (RepairResult.mem_commands.mpr (Or.inl he))⟩
          candidates := hcandidates
          handoff := hhandoff
          inferred := hinferred
          exitCode := by rw [Interpretation.exitCode, haction] }
  | presentOptions =>
      obtain ⟨hrepaired, hcandidates, hdone⟩ := hstate
      obtain ⟨hhandoff, hinferred⟩ := i.handoff_conclude_of_ne p c (d := d) (by simp [hdone])
      exact
        { action := haction
          resolved := hrepaired
          candidates := hcandidates
          grammatical := fun e he => hcommands e (RepairResult.mem_commands.mpr (Or.inr he))
          handoff := hhandoff
          inferred := hinferred
          exitCode := by rw [Interpretation.exitCode, haction] }
  | failToBackend =>
      obtain ⟨hrepaired, hcandidates, -, hfinding, hdone⟩ := hstate
      have hhandoff : (i.conclude p c d).handoff = some (i.request c) := by
        rw [handoff_conclude, if_pos hdone]
      have hinferred : (i.conclude p c d).inferred = i.backend (i.request c) := by
        rw [inferred_conclude, hhandoff]
        rfl
      exact
        { action := haction
          resolved := hrepaired
          candidates := hcandidates
          finding := hfinding
          handoff := hhandoff
          inferred := hinferred
          exitCode := by rw [Interpretation.exitCode, haction, hinferred] }

end

/-- **The outcome of a line.**  A blank line is refused as empty.  Any other line is interpreted,
with the line and the metadata of the request in the command that it was read as, and what comes
of it is exactly one of the outcomes, under any vocabulary, checked or not, and with any service;
the service is asked about the line as it was typed. -/
theorem interpret_outcome (i : Interpreter) (input : String) (metadata : Metadata) :
    (isBlankText input = true ∧ i.interpret input metadata = .error (.grammar .emptyInput)) ∨
    (isBlankText input = false ∧
      ∃ r, i.interpret input metadata = .ok r ∧ r.submitted.raw = input ∧
        r.submitted.metadata = metadata ∧
        ∃! a, r.HasOutcome i.vocabulary i.backend ⟨input, i.context, metadata.id⟩ a) := by
  cases hinput : isBlankText input with
  | true => exact Or.inl ⟨rfl, i.interpret_of_blank hinput metadata⟩
  | false =>
      obtain ⟨p, hread, hinterpret⟩ := i.exists_interpret hinput metadata
      have hraw : (p.command.withMetadata metadata).raw = input := Line.raw_of_read hinput hread
      have hmark := (Line.mark_of_read hinput hread).2
      have hsubmitted := RepairResult.submitted_ofChain i.vocabulary Strategy.all
        (p.command.withMetadata metadata)
      obtain ⟨a, hstate, -⟩ :=
        (agrees_ofChain i.vocabulary Strategy.all (p.command.withMetadata metadata)).state
      have houtcome := i.hasOutcome_conclude p (p.command.withMetadata metadata) hstate
        (fun e he => grammatical_of_mem_commands (c := p.command.withMetadata metadata)
          hmark.mp he)
      have hrequest : i.request (p.command.withMetadata metadata) =
          ⟨input, i.context, metadata.id⟩ := by
        rw [request, hraw]
        rfl
      rw [hrequest] at houtcome
      refine Or.inr ⟨rfl, _, hinterpret, ?_, ?_, houtcome.existsUnique⟩
      · exact (congrArg Command.raw hsubmitted).trans hraw
      · exact congrArg Command.metadata hsubmitted

end Interpreter

end Emend
