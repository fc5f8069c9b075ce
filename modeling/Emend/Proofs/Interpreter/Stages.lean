import Emend.Interpreter
import Emend.Proofs.Line.TokenGrammar
import Emend.Proofs.Repair.Decision

/-!
# The stages of an interpretation

A line is read and what was read is repaired, and an interpretation is put together from the two.
Neither stage fails on a line that is not blank: such a line is always read, and its command, which
keeps the line as its text, is one that there is something to do about.  `exists_interpret` is the
starting point for what is proved of interpretations.
-/

namespace Emend

/-- A blank line is not read. -/
theorem Line.read_of_blank (v : Vocabulary) {input : String} (hinput : isBlankText input = true) :
    Line.read v input = .error .emptyInput := if_pos hinput

/-- Every line that is not blank is read. -/
theorem Line.exists_read (v : Vocabulary) {input : String} (hinput : isBlankText input = false) :
    ∃ p, Line.read v input = .ok p := by
  rcases Line.read_cases v hinput with ⟨-, hread⟩ | ⟨parts, -, hread⟩
  · exact ⟨_, hread⟩
  · exact ⟨_, hread⟩

/-- What is read keeps the line as its text. -/
theorem Line.raw_of_read {v : Vocabulary} {input : String} {p : ParsedLine}
    (hinput : isBlankText input = false) (h : Line.read v input = .ok p) :
    p.command.raw = input := by
  rcases Line.read_cases v hinput with ⟨-, hread⟩ | ⟨parts, -, hread⟩
  · rw [hread] at h
    cases h
    rfl
  · rw [hread] at h
    cases h
    rw [Line.judged_command]
    rfl

/-- What is read from a line is marked as grammatical if the line is structured and has no error,
which is if it is grammatical, and not otherwise. -/
theorem Line.mark_of_read {v : Vocabulary} {input : String} {p : ParsedLine}
    (hinput : isBlankText input = false) (h : Line.read v input = .ok p) :
    (p.command.isValid = true ↔ p.form = .structured ∧ p.grammarError = none) ∧
      (p.command.isValid = true ↔ v.validateCommand p.command = .ok ()) := by
  rcases Line.read_cases v hinput with ⟨-, hread⟩ | ⟨parts, -, hread⟩
  · rw [hread] at h
    cases h
    constructor
    · apply iff_of_false Bool.false_ne_true
      intro hstructured
      cases hstructured.1
    · apply iff_of_false Bool.false_ne_true
      intro hvalid
      exact (Vocabulary.validateCommand_eq_ok_iff.mp hvalid).1 rfl
  · rw [hread] at h
    cases h
    have hmark := Line.judged_isValid_iff (v := v) (c := parts.command input) rfl
    constructor
    · rw [hmark, Line.judged_form]
      simp
    · rw [hmark, Line.judged_grammarError_iff, Line.judged_command]
      rfl

theorem Command.isBlank_of_raw {c : Command} (h : isBlankText c.raw = false) :
    c.isBlank = false := by
  simp [Command.isBlank, h]

namespace Interpreter

/-- **A line that is not blank is interpreted**: it is read, the standard chain comes to a result
on its command with the metadata of the request, and that is the interpretation. -/
theorem exists_interpret (i : Interpreter) {input : String} (hinput : isBlankText input = false)
    (metadata : Metadata) :
    ∃ p, Line.read i.vocabulary input = .ok p ∧
      i.interpret input metadata = .ok (i.conclude p (p.command.withMetadata metadata)
        (RepairResult.ofChain i.vocabulary Strategy.all
          (p.command.withMetadata metadata)).decided) := by
  obtain ⟨p, hread⟩ := Line.exists_read i.vocabulary hinput
  have hraw : (p.command.withMetadata metadata).raw = input := Line.raw_of_read hinput hread
  have hblank : (p.command.withMetadata metadata).isBlank = false := by
    apply Command.isBlank_of_raw
    rw [hraw]
    exact hinput
  refine ⟨p, hread, ?_⟩
  simp only [interpret, hread, repairWithDecision_eq_ok hblank]

/-- A blank line is turned away before anything is repaired. -/
theorem interpret_of_blank (i : Interpreter) {input : String} (hinput : isBlankText input = true)
    (metadata : Metadata) : i.interpret input metadata = .error (.grammar .emptyInput) := by
  simp only [interpret, Line.read_of_blank i.vocabulary hinput]

/-- Nothing is handed over but what is passed on. -/
theorem handoff_conclude (i : Interpreter) (p : ParsedLine) (c : Command) (d : RepairDecision) :
    (i.conclude p c d).handoff =
      if d.action = .failToBackend then some (i.request c) else none := rfl

/-- The service is asked what is handed over, and nothing else. -/
theorem inferred_conclude (i : Interpreter) (p : ParsedLine) (c : Command) (d : RepairDecision) :
    (i.conclude p c d).inferred = (i.conclude p c d).handoff.bind i.backend := rfl

end Interpreter

end Emend
