import Emend.Proofs.Interpreter.Stages
import Emend.Session

/-!
# Marks are not forged

A command carries its mark of being grammatical with it while a session changes its words, its
modifiers and its metadata, repairs it, and comes back to what an earlier repair proposed.  The mark
is set in two places only, where a line is read and where a reading is approved, and the grammar is
consulted in both.  Every other step either clears it or leaves the words alone.

`Session.IsUnforged` is what a session keeps through this: the mark of the command at hand is right,
and all commands of the remembered result are grammatical.  `unforged_step` shows it for one step, and
`never_forged` for any number of them, from a session with nothing in it.  Two steps are left out, as
they are there to do what is to be excluded: one sets the mark by hand, the other exchanges the
vocabulary under the command.
-/

namespace Emend

/-! ## Honest commands -/

/-- A command whose mark says no more than is true. -/
def Command.IsHonest (c : Command) (v : Vocabulary) : Prop :=
  c.isValid = true → v.validateCommand c = .ok ()

section

variable {v : Vocabulary} {c : Command}

/-- A command without a mark claims nothing. -/
theorem Command.isHonest_of_not_valid (hmark : c.isValid = false) : c.IsHonest v := by
  intro hvalid
  exact absurd (hmark.symm.trans hvalid) Bool.false_ne_true

theorem Command.isHonest_of_grammatical (h : v.validateCommand c = .ok ()) : c.IsHonest v :=
  fun _ => h

/-- The grammar looks at the words of a command only, so the mark may stay where these do. -/
theorem Command.IsHonest.of_words (h : c.IsHonest v) {d : Command} (hintent : d.intent = c.intent)
    (htarget : d.target = c.target) (hmark : d.isValid = c.isValid) : d.IsHonest v := by
  intro hvalid
  rw [hmark] at hvalid
  have hc := Vocabulary.validateCommand_eq_ok_iff.mp (h hvalid)
  rw [← hintent, ← htarget] at hc
  exact Vocabulary.validateCommand_eq_ok_iff.mpr hc

/-- What is read from a line is marked only if it is grammatical. -/
theorem Line.isHonest_of_read {input : String} {p : ParsedLine} (h : Line.read v input = .ok p) :
    p.command.IsHonest v := by
  cases hinput : isBlankText input with
  | true =>
      rw [Line.read_of_blank v hinput] at h
      cases h
  | false => exact (Line.mark_of_read hinput h).2.mp

end

/-! ## Sessions -/

/-- A step that neither sets the mark by hand nor exchanges the vocabulary. -/
def SessionStep.IsOrdinary : SessionStep → Prop
  | .useVocabulary _ => False
  | .setValid _ => False
  | _ => True

namespace Session

/-- A session in which no mark is forged: that of the command at hand is right, and what the last
repair came to is grammatical. -/
structure IsUnforged (s : Session) : Prop where
  command : s.command.IsHonest s.vocabulary
  lastResult : ∀ r, s.lastResult = some r → ∀ d ∈ r.commands,
    d.isValid = true ∧ s.vocabulary.validateCommand d = .ok ()

/-- Nothing is marked in the session that there is to begin with. -/
theorem unforged_start (v : Vocabulary) : IsUnforged { vocabulary := v } where
  command := Command.isHonest_of_not_valid rfl
  lastResult := by
    intro r hr
    cases hr

variable {s next : Session} {st : SessionStep} {report : StepReport}

/-- A command with the right mark may be taken into the session. -/
theorem IsUnforged.take (h : s.IsUnforged) {c : Command} (hc : c.IsHonest s.vocabulary) :
    IsUnforged { s with command := c } :=
  ⟨hc, h.lastResult⟩

/-- A command of the last result may be taken as it is. -/
theorem IsUnforged.take_of_mem (h : s.IsUnforged) {r : RepairResult} {c : Command}
    (hr : s.lastResult = some r) (hc : r.repaired = some c ∨ c ∈ r.candidates) :
    IsUnforged { s with command := c } := by
  have hgrammatical := (h.lastResult r hr c (RepairResult.mem_commands.mpr hc)).2
  exact h.take (Command.isHonest_of_grammatical hgrammatical)

/-- Repairing a command with the right mark leads to grammatical commands only. -/
theorem IsUnforged.remember (h : s.IsUnforged) (strategies : List Strategy) :
    IsUnforged { s with
      lastResult := some (RepairResult.ofChain s.vocabulary strategies s.command) } where
  command := h.command
  lastResult := by
    intro r hr d hd
    obtain rfl := Option.some_inj.mp hr
    exact grammatical_of_mem_commands h.command hd

/-! ## One step -/

/-- A line that is read forges no mark and leaves the vocabulary. -/
theorem unforged_parse {input : String} (h : s.IsUnforged)
    (hs : s.parse input = .ok (next, report)) :
    next.IsUnforged ∧ next.vocabulary = s.vocabulary := by
  unfold parse at hs
  split at hs
  · cases hs
  · next p hread =>
      cases hs
      exact ⟨h.take (Line.isHonest_of_read hread), rfl⟩

/-- **An ordinary step forges nothing**, and keeps the vocabulary. -/
theorem unforged_step (hst : st.IsOrdinary) (h : s.IsUnforged)
    (hs : s.step st = .ok (next, report)) :
    next.IsUnforged ∧ next.vocabulary = s.vocabulary := by
  cases st with
  | useVocabulary source => exact hst.elim
  | setValid value => exact hst.elim
  | parse input => exact unforged_parse h hs
  | reparse => exact unforged_parse h hs
  | startOver raw =>
      cases hs
      exact ⟨h.take (Command.isHonest_of_not_valid rfl), rfl⟩
  | fromParts raw intent target modifiers =>
      cases hs
      exact ⟨h.take (Command.isHonest_of_not_valid rfl), rfl⟩
  | restate intent target =>
      cases hs
      exact ⟨h.take (Command.isHonest_of_not_valid rfl), rfl⟩
  | restateModifiers modifiers =>
      cases hs
      exact ⟨h.take (Command.isHonest_of_not_valid rfl), rfl⟩
  | withModifier key value =>
      cases hs
      exact ⟨h.take (h.command.of_words rfl rfl rfl), rfl⟩
  | withMetadata metadata =>
      cases hs
      exact ⟨h.take (h.command.of_words rfl rfl rfl), rfl⟩
  | validate =>
      simp only [step] at hs
      split at hs
      · cases hs
      · cases hs
        exact ⟨h, rfl⟩
  | repair =>
      simp only [step] at hs
      split at hs
      · cases hs
      · next d hd =>
          cases hs
          obtain ⟨-, rfl⟩ := repairWithDecision_eq_ok_iff.mp hd
          exact ⟨h.remember Strategy.all, rfl⟩
  | accept =>
      simp only [step] at hs
      split at hs
      · cases hs
      · next c hc =>
          cases hs
          obtain ⟨r, hr, hrepaired⟩ := Option.bind_eq_some_iff.mp hc
          exact ⟨h.take_of_mem hr (Or.inl hrepaired), rfl⟩
  | choose index =>
      simp only [step] at hs
      split at hs
      · cases hs
      · next c hc =>
          cases hs
          obtain ⟨r, hr, hcandidate⟩ := Option.bind_eq_some_iff.mp hc
          exact ⟨h.take_of_mem hr (Or.inr (List.mem_of_getElem? hcandidate)), rfl⟩

/-! ## Runs -/

/-- A step that fails changes nothing, so what holds of a step holds of the session after it. -/
theorem unforged_after (hst : st.IsOrdinary) (h : s.IsUnforged) :
    (s.after st).IsUnforged ∧ (s.after st).vocabulary = s.vocabulary := by
  unfold after
  split
  · next hs => exact unforged_step hst h hs
  · exact ⟨h, rfl⟩

/-- A run of ordinary steps forges no mark and leaves the vocabulary. -/
theorem unforged_run {steps : List SessionStep} (hsteps : ∀ st ∈ steps, st.IsOrdinary)
    (h : s.IsUnforged) : (s.run steps).IsUnforged ∧ (s.run steps).vocabulary = s.vocabulary := by
  induction steps generalizing s with
  | nil => exact ⟨h, rfl⟩
  | cons st rest ih =>
      obtain ⟨hst, hrest⟩ := List.forall_mem_cons.mp hsteps
      obtain ⟨hafter, hsame⟩ := unforged_after hst h
      obtain ⟨hrun, hkept⟩ := ih hrest hafter
      exact ⟨hrun, hkept.trans hsame⟩

/-- Every command that is reported was at hand after some of the steps. -/
theorem exists_run_of_mem_reports {steps : List SessionStep}
    {e : Except StepError StepReport × Command} (he : e ∈ s.reports steps) :
    ∃ taken, taken <+: steps ∧ e.2 = (s.run taken).command := by
  induction steps generalizing s with
  | nil => cases he
  | cons st rest ih =>
      rcases List.mem_cons.mp he with rfl | he
      · exact ⟨[st], ⟨rest, rfl⟩, rfl⟩
      · obtain ⟨taken, hinit, heq⟩ := ih he
        exact ⟨st :: taken, List.cons_prefix_cons.mpr ⟨rfl, hinit⟩, heq⟩

/-- **Validity is never forged.**  Whatever ordinary steps a session takes from its beginning, under
any vocabulary, checked or not, each command that it reports is grammatical if it is marked so, and in
the end the vocabulary is the same, the command at hand is grammatical if it is marked so, and the
repaired command and the candidates of the last result are marked and grammatical. -/
theorem never_forged (v : Vocabulary) {steps : List SessionStep}
    (hsteps : ∀ st ∈ steps, st.IsOrdinary) :
    (∀ e ∈ reports { vocabulary := v } steps, e.2.IsHonest v) ∧
      (run { vocabulary := v } steps).vocabulary = v ∧
      (run { vocabulary := v } steps).IsUnforged := by
  have hrun : ∀ taken, taken <+: steps →
      (run { vocabulary := v } taken).IsUnforged ∧
        (run { vocabulary := v } taken).vocabulary = v := by
    intro taken hinit
    exact unforged_run (fun st hst => hsteps st (hinit.subset hst)) (unforged_start v)
  refine ⟨?_, (hrun steps List.prefix_rfl).2, (hrun steps List.prefix_rfl).1⟩
  intro e he
  obtain ⟨taken, hinit, heq⟩ := exists_run_of_mem_reports he
  obtain ⟨hunforged, hsame⟩ := hrun taken hinit
  have hhonest := hunforged.command
  rw [hsame, ← heq] at hhonest
  exact hhonest

/-- A candidate is chosen and goes through the engine with one more modifier; the result is taken
up again after the command at hand was changed and lost its mark. -/
theorem never_forged_anlyze :
    let steps : List SessionStep := [.parse "mender anlyze rild", .repair, .choose 1,
      .withModifier "depth" "3", .repair, .restate "deploy" "", .accept]
    (∀ st ∈ steps, st.IsOrdinary) ∧
      ((run { vocabulary := .builtIn } steps).command.display = "analyze build --depth=3" ∧
        (run { vocabulary := .builtIn } steps).command.isValid = true) ∧
      (∀ e ∈ reports { vocabulary := .builtIn } steps, e.2.IsHonest .builtIn) ∧
      (run { vocabulary := .builtIn } steps).vocabulary = .builtIn ∧
      (run { vocabulary := .builtIn } steps).IsUnforged := by
  intro steps
  have hsteps : ∀ st ∈ steps, st.IsOrdinary := by simp [steps, SessionStep.IsOrdinary]
  have htaken : (run { vocabulary := .builtIn } steps).command.display = "analyze build --depth=3" ∧
      (run { vocabulary := .builtIn } steps).command.isValid = true := by
    decide +kernel
  exact ⟨hsteps, htaken, never_forged .builtIn hsteps⟩

end Session

end Emend
