import Emend.Proofs.Interpreter.Stages
import Emend.Proofs.Line.DisplayRoundTrip

/-!
# Proposals can be typed

What is proposed to the user should be something that the user could have typed.  The words of a
command come from the line, in lower case, and a repair puts only such words in the place of others:
entries of the vocabulary, words of the command itself, or no word.  So if the declared intents and
targets are made of word characters, every command that a reading makes of one that is *spelled*
is spelled again (`Reading.isSpelled`), and as an approved command has an intent it can be typed.

`interpret_typed_back` follows this through a whole interpretation: each command in it, typed after
the name of the program, is read as that command and found to be grammatical.
-/

namespace Emend

/-- A word that can stand for an intent or a target in a command, or none at all. -/
def IsSpelledWord (word : String) : Prop :=
  Line.isWord word.toList = true ∧ lowercase word = word

/-- A command that can be typed as soon as it has an intent. -/
structure Command.IsSpelled (c : Command) : Prop where
  intent : IsSpelledWord c.intent
  target : IsSpelledWord c.target
  modifiers : ∀ e ∈ c.modifiers.entries, Modifiers.IsModifier e.1.toList e.2.toList

/-- A vocabulary whose intents and targets are made of word characters. -/
structure Vocabulary.HasWords (v : Vocabulary) : Prop where
  intents : ∀ word ∈ v.intents, Line.isWord word.toList = true
  targets : ∀ word ∈ v.targets, Line.isWord word.toList = true

theorem isSpelledWord_empty : IsSpelledWord "" := ⟨rfl, lowercase_eq_empty_iff.mpr rfl⟩

/-- What can be typed as a line is made of words. -/
theorem Command.IsTypeable.isSpelled {c : Command} (h : c.IsTypeable) : c.IsSpelled :=
  ⟨⟨h.intent_word, h.intent_lower⟩, ⟨h.target_word, h.target_lower⟩, h.modifiers⟩

/-- A command that is made of words can be typed if it has an intent. -/
theorem Command.IsSpelled.isTypeable {c : Command} (h : c.IsSpelled) (hne : c.intent ≠ "") :
    c.IsTypeable :=
  ⟨hne, h.intent.1, h.intent.2, h.target.1, h.target.2, h.modifiers⟩

/-- Words may be put in the place of words. -/
theorem Command.IsSpelled.restate {c : Command} (h : c.IsSpelled) {intent target : String}
    (hintent : IsSpelledWord intent) (htarget : IsSpelledWord target) :
    (c.restate intent target).IsSpelled :=
  ⟨hintent, htarget, h.modifiers⟩

/-! ## Readings of a spelled command -/

section

variable {v : Vocabulary} (hv : v.Consistent) (hwords : v.HasWords)

include hv hwords

/-- The intents of the vocabulary are words in lower case. -/
theorem isSpelledWord_of_mem_intents {word : String} (h : word ∈ v.intents) :
    IsSpelledWord word :=
  ⟨hwords.intents word h, (hv.intent_entry word h).2⟩

theorem isSpelledWord_of_mem_targets {word : String} (h : word ∈ v.targets) :
    IsSpelledWord word :=
  ⟨hwords.targets word h, (hv.target_entry word h).2⟩

/-- Whatever words a strategy puts in a command, they can be typed. -/
theorem Reading.isSpelled {c r : Command} {s : Strategy} (h : Reading v c s r)
    (hs : s ≠ .flagNormalization) (hc : c.IsSpelled) : r.IsSpelled := by
  have hintents : ∀ {word : String}, word ∈ v.intents → IsSpelledWord word :=
    isSpelledWord_of_mem_intents hv hwords
  have htargets : ∀ {word : String}, word ∈ v.targets → IsSpelledWord word :=
    isSpelledWord_of_mem_targets hv hwords
  cases h with
  | normalForm => exact absurd rfl hs
  | swapped _ htarget =>
      exact hc.restate (hintents (Vocabulary.isIntent_iff.mp htarget)) hc.intent
  | promoted _ htarget =>
      exact hc.restate (hintents (Vocabulary.isIntent_iff.mp htarget)) isSpelledWord_empty
  | defaulted _ => exact hc.restate (hintents hv.default_declared) hc.intent
  | synonym hintent => exact hc.restate (hintents (hv.synonym_declared _ _ hintent)) hc.target
  | intentCorrected hintent _ hm =>
      have hdeclared := (Strategy.intentMatches?_eq_some hintent).2
      exact hc.restate (hintents (hdeclared _ hm)) hc.target
  | targetCorrected _ htarget hm =>
      have hknown := (Strategy.targetMatches?_eq_some htarget).2.2
      exact hc.restate hc.intent (htargets (hknown _ hm))
  | bothCorrected hintent htarget hi ht =>
      have hdeclared := (Strategy.intentMatches?_eq_some hintent).2
      have hknown := (Strategy.targetMatches?_eq_some htarget).2.2
      exact hc.restate (hintents (hdeclared _ hi)) (htargets (hknown _ ht))

end

/-! ## What is read and what is proposed -/

/-- What is read from a line is spelled, and marked as the grammar says. -/
theorem Line.isSpelled_of_read {v : Vocabulary} {input : String} {p : ParsedLine}
    (hinput : isBlankText input = false) (h : Line.read v input = .ok p) :
    p.command.IsSpelled ∧
      (p.command.isValid = true ↔ v.validateCommand p.command = .ok ()) := by
  refine ⟨?_, (Line.mark_of_read hinput h).2⟩
  rcases Line.read_cases v hinput with ⟨-, hread⟩ | ⟨parts, hsplit, hread⟩
  · rw [hread] at h
    cases h
    refine ⟨isSpelledWord_empty, isSpelledWord_empty, ?_⟩
    intro e he
    cases he
  · rw [hread] at h
    cases h
    have htypeable := (Line.Parts.isTypeable_command hsplit input).withValidity
      (Line.judged v (parts.command input)).command.isValid
    rw [← Line.judged_command] at htypeable
    exact htypeable.isSpelled

/-- The commands that a chain comes to for a spelled command can be typed and are grammatical, if
the command is marked as the grammar says. -/
theorem isTypeable_of_mem_commands {v : Vocabulary} (hv : v.Consistent) (hwords : v.HasWords)
    {c : Command} (hc : c.IsSpelled)
    (hmark : c.isValid = true ↔ v.validateCommand c = .ok ()) {strategies : List Strategy}
    {d : Command} (hd : d ∈ (RepairResult.ofChain v strategies c).commands) :
    d.IsTypeable ∧ v.validateCommand d = .ok () := by
  have hgrammatical := (grammatical_of_mem_commands hmark.mp hd).2
  have hne := (Vocabulary.validateCommand_eq_ok_iff.mp hgrammatical).1
  refine ⟨?_, hgrammatical⟩
  cases hvalid : c.isValid with
  | true =>
      rw [RepairResult.ofChain_of_valid hvalid] at hd
      obtain rfl : d = c := List.mem_singleton.mp hd
      exact hc.isTypeable hne
  | false =>
      have hinvalid : v.validateCommand c ≠ .ok () := by
        rw [ne_eq, ← hmark, hvalid]
        exact Bool.false_ne_true
      rw [RepairResult.ofChain_of_not_valid hvalid] at hd
      rcases tryStrategies_proposes v c strategies with heq | ⟨s, -, p, hproposes, heq⟩
      · rw [heq] at hd
        cases hd
      · rw [heq, RepairResult.commands_ofProposal] at hd
        have hrepair : IsRepairOf v s c d := hproposes.isRepairOf d hd
        obtain ⟨r, hreading, happroved⟩ := hproposes.exists_reading hd
        have hr : r.IsSpelled :=
          hreading.isSpelled hv hwords (hrepair.ne_flagNormalization hinvalid) hc
        obtain ⟨-, rfl⟩ := Vocabulary.approve_eq_some_iff.mp happroved
        have hspelled : (r.withValidity true).IsSpelled := ⟨hr.intent, hr.target, hr.modifiers⟩
        exact hspelled.isTypeable hne

/-! ## Typing it back -/

/-- A typeable command that is grammatical is read back as one. -/
theorem Line.read_of_grammatical {v : Vocabulary} (hv : v.Consistent) (hname : v.programName ≠ "")
    {c : Command} (htypeable : c.IsTypeable) (hvalid : v.validateCommand c = .ok ()) :
    ∃ p, Line.read v (Line.ofArguments v.programName [c.display]) = .ok p ∧
      p.form = .structured ∧ p.grammarError = none ∧ p.command.isValid = true ∧
      p.command.intent = c.intent ∧ p.command.target = c.target ∧
      p.command.modifiers = c.modifiers := by
  refine ⟨_, Line.read_ofArguments_display hv hname htypeable, Line.judged_form _ _, ?_⟩
  have herror := (Line.judged_grammarError_iff v (.ofParts
    (Line.ofArguments v.programName [c.display]) c.intent c.target c.modifiers)).mpr hvalid
  have hmark := (Line.judged_isValid_iff rfl).mpr herror
  refine ⟨herror, hmark, ?_⟩
  rw [Line.judged_command]
  exact ⟨rfl, rfl, rfl⟩

/-- **What is proposed can be typed back.**  Under a checked vocabulary with a program name, whose
intents and targets are made of word characters, every line that is not blank is interpreted, and
each command of the interpretation, typed after the name of the program, is a structured line
without an error that is read as the command it was, marked as grammatical. -/
theorem interpret_typed_back {v n : Vocabulary} {input : String} (hv : v.checked = .ok n)
    (hname : n.programName ≠ "") (hwords : n.HasWords) (hinput : isBlankText input = false)
    (backend : InferenceBackend) (context : Option String) (metadata : Metadata) :
    ∃ r, (Interpreter.mk n backend context).interpret input metadata = .ok r ∧
      ∀ d, r.resolved = some d ∨ d ∈ r.candidates →
        ∃ p, Line.read n (Line.ofArguments n.programName [d.display]) = .ok p ∧
          p.form = .structured ∧ p.grammarError = none ∧ p.command.isValid = true ∧
          p.command.intent = d.intent ∧ p.command.target = d.target ∧
          p.command.modifiers = d.modifiers := by
  have hn : n.Consistent := Vocabulary.checked_consistent hv
  obtain ⟨p, hread, hinterpret⟩ :=
    (Interpreter.mk n backend context).exists_interpret hinput metadata
  obtain ⟨hspelled, hmark⟩ := Line.isSpelled_of_read hinput hread
  have hcommand : (p.command.withMetadata metadata).IsSpelled :=
    ⟨hspelled.intent, hspelled.target, hspelled.modifiers⟩
  refine ⟨_, hinterpret, ?_⟩
  intro d hd
  have hmem : d ∈ (RepairResult.ofChain n Strategy.all
      (p.command.withMetadata metadata)).commands := by
    simpa [RepairResult.commands, Interpreter.conclude] using hd
  obtain ⟨htypeable, hgrammatical⟩ := isTypeable_of_mem_commands hn hwords hcommand hmark hmem
  exact Line.read_of_grammatical hn hname htypeable hgrammatical

/-- Words in the wrong order are put right, with modifiers that are not easily typed. -/
theorem interpret_typed_back_docs :
    (Vocabulary.builtIn.checked = .ok .builtIn ∧ Vocabulary.builtIn.programName ≠ "" ∧
      Vocabulary.builtIn.HasWords ∧
      isBlankText "MENDER Docs analyze ---x= --path=a=b --all" = false) ∧
    ∃ r, (Interpreter.mk .builtIn .offline none).interpret
        "MENDER Docs analyze ---x= --path=a=b --all" {} = .ok r ∧
      r.resolved.map (·.display) = some "analyze docs ---x= --all --path=a=b" ∧
      ∀ d, r.resolved = some d ∨ d ∈ r.candidates →
        ∃ p, Line.read .builtIn (Line.ofArguments Vocabulary.builtIn.programName [d.display]) =
            .ok p ∧
          p.form = .structured ∧ p.grammarError = none ∧ p.command.isValid = true ∧
          p.command.intent = d.intent ∧ p.command.target = d.target ∧
          p.command.modifiers = d.modifiers := by
  have hname : Vocabulary.builtIn.programName ≠ "" := by decide
  have hwords : Vocabulary.builtIn.HasWords := ⟨by decide +kernel, by decide +kernel⟩
  have hinput : isBlankText "MENDER Docs analyze ---x= --path=a=b --all" = false := by
    decide +kernel
  have hdisplay : ((Interpreter.mk .builtIn .offline none).interpret
      "MENDER Docs analyze ---x= --path=a=b --all" {}).toOption.map
        (fun r => r.resolved.map (·.display)) =
          some (some "analyze docs ---x= --all --path=a=b") := by
    decide +kernel
  obtain ⟨r, hr, hback⟩ :=
    interpret_typed_back Vocabulary.builtIn_checked hname hwords hinput .offline none {}
  rw [hr] at hdisplay
  exact ⟨⟨Vocabulary.builtIn_checked, hname, hwords, hinput⟩, r, hr,
    Option.some_inj.mp hdisplay, hback⟩

end Emend
