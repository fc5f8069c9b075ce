import Emend.Proofs.Interpreter.TypedBack

/-!
# Which declared commands can be typed

A vocabulary may declare any words that are not blank, but an intent or a target that is typed is
a word of word characters.  So a declared intent and a declared target come back when they are
typed after the name of the program if and only if both are made of word characters
(`typed_declared_iff`).  A word with a hyphen or a blank in it can be declared all the same: it is
what other words are corrected to, but it cannot be typed itself (`not_typed_declared`).
-/

namespace Emend

namespace Line

/-- A line that is read as a grammatical command of the given intent and target, without
modifiers, which every repair leaves as it is. -/
structure IsReadAs (v : Vocabulary) (line intent target : String) (p : ParsedLine) : Prop where
  read : Line.read v line = .ok p
  form : p.form = .structured
  grammarError : p.grammarError = none
  isValid : p.command.isValid = true
  intent : p.command.intent = intent
  target : p.command.target = target
  modifiers : p.command.modifiers = ∅
  repair : ∀ strategies, ∃ r, Emend.repair v strategies p.command = .ok r ∧
    r.submitted = p.command ∧ r.repaired = some p.command ∧
    r.confidence = Confidence.hundredths 100 ∧ r.candidates = []

/-- The request for an intent and a target, and nothing else. -/
def request (intent target : String) : Command := .ofParts "" intent target ∅

/-- A request is displayed as its two words. -/
theorem display_request (intent : String) {target : String} (h : target ≠ "") :
    (request intent target).display = intent ++ " " ++ target := by
  have htarget : (request intent target).hasTarget = true := Vocabulary.hasTarget_iff.mpr h
  rw [Command.display, if_pos htarget]
  rfl

/-- A request is typed as its intent and its target. -/
theorem ofArguments_request (name intent : String) {target : String} (h : target ≠ "") :
    ofArguments name [(request intent target).display] = ofArguments name [intent, target] := by
  have hjoined : " ".intercalate [intent, target] = intent ++ " " ++ target := by
    rw [← String.toList_inj]
    simp
  have hsingle : " ".intercalate [intent ++ " " ++ target] = intent ++ " " ++ target := by
    rw [← String.toList_inj]
    simp
  rw [display_request intent h, ofArguments, ofArguments, hjoined, hsingle]

section

variable {v : Vocabulary} (hv : v.Consistent) {intent target : String} (hintent : intent ∈ v.intents)
  (htarget : target ∈ v.targets)

include hv hintent htarget

/-- A request can be typed if its intent and its target consist of word characters. -/
theorem isTypeable_request_iff :
    (request intent target).IsTypeable ↔
      isWord intent.toList = true ∧ isWord target.toList = true := by
  obtain ⟨hne, hlower⟩ := hv.intent_entry intent hintent
  obtain ⟨-, htargetLower⟩ := hv.target_entry target htarget
  constructor
  · intro h
    exact ⟨h.intent_word, h.target_word⟩
  · intro ⟨hword, htargetWord⟩
    refine ⟨hne, hword, hlower, htargetWord, htargetLower, ?_⟩
    intro e he
    cases he

/-- A request of declared words is grammatical, whatever the words are made of. -/
theorem validateCommand_request : v.validateCommand (request intent target) = .ok () := by
  obtain ⟨hne, hlower⟩ := hv.intent_entry intent hintent
  obtain ⟨htargetNe, -⟩ := hv.target_entry target htarget
  have hdeclared : lowercase (request intent target).intent ∈ v.intents := by
    rwa [request, Command.ofParts, hlower]
  exact Vocabulary.validateCommand_eq_ok_iff.mpr ⟨hne, hdeclared, fun _ => htargetNe⟩

end

/-- A command that is marked as grammatical is its own repair, with full confidence. -/
theorem exists_repair_of_valid (v : Vocabulary) (strategies : List Strategy) {c : Command}
    (hne : c.intent ≠ "") (hmark : c.isValid = true) :
    ∃ r, Emend.repair v strategies c = .ok r ∧ r.submitted = c ∧ r.repaired = some c ∧
      r.confidence = Confidence.hundredths 100 ∧ r.candidates = [] := by
  have hblank : c.isBlank = false := by simp [Command.isBlank, hne]
  refine ⟨.ofValid c, ?_, rfl, rfl, rfl, rfl⟩
  rw [repair_eq_ok hblank, RepairResult.ofChain_of_valid hmark]

/-- No line follows a name that is empty: once it is trimmed it does not begin with a blank. -/
theorem split?_of_unnamed (line : List Char) : split? [] (trim line) = none := by
  cases htrim : trim line with
  | nil => rfl
  | cons c rest =>
      have hplain : isBlank c = false := by
        apply isBlank_head_trim line
        rw [htrim]
        rfl
      simp [split?, dropCaseless, hplain]

/-- A program without a name is never given a structured line. -/
theorem form_of_unnamed {v : Vocabulary} (hname : v.programName = "") {input : String}
    {p : ParsedLine} (h : read v input = .ok p) : p.form = .naturalLanguage := by
  cases hform : p.form with
  | naturalLanguage => rfl
  | structured =>
      obtain ⟨parts, hsplit, -⟩ := exists_parts_of_structured h hform
      rw [hname, String.toList_empty, split?_of_unnamed] at hsplit
      cases hsplit

/-- **Which declared commands can be typed.**  Under a checked vocabulary whose program has a name,
a declared intent and a declared target that are typed after the name are read as the grammatical
command of these two, which every repair returns with full confidence, if and only if both are made
of word characters. -/
theorem typed_declared_iff {v n : Vocabulary} (hv : v.checked = .ok n) (hname : n.programName ≠ "")
    {intent target : String} (hintent : intent ∈ n.intents) (htarget : target ∈ n.targets) :
    (∃ p, IsReadAs n (ofArguments n.programName [intent, target]) intent target p) ↔
      isWord intent.toList = true ∧ isWord target.toList = true := by
  have hn : n.Consistent := Vocabulary.checked_consistent hv
  obtain ⟨hne, -⟩ := hn.intent_entry intent hintent
  obtain ⟨htargetNe, -⟩ := hn.target_entry target htarget
  constructor
  · rintro ⟨p, h⟩
    have htypeable : p.command.IsTypeable := (read_display hv hname).1 _ p h.read h.form
    rw [← h.intent, ← h.target]
    exact ⟨htypeable.intent_word, htypeable.target_word⟩
  · intro hwords
    have htypeable := (isTypeable_request_iff hn hintent htarget).mpr hwords
    have hgrammatical := validateCommand_request hn hintent htarget
    obtain ⟨p, hread, hform, herror, hmark, hpIntent, hpTarget, hmodifiers⟩ :=
      read_of_grammatical hn hname htypeable hgrammatical
    rw [ofArguments_request _ _ htargetNe] at hread
    have hpNe : p.command.intent ≠ "" := by rwa [hpIntent]
    exact ⟨p, hread, hform, herror, hmark, hpIntent, hpTarget, hmodifiers,
      fun strategies => exists_repair_of_valid n strategies hpNe hmark⟩

/-- Two words of the vocabulary that comes with the program. -/
theorem typed_declared_iff_status :
    (Vocabulary.builtIn.checked = .ok .builtIn ∧ Vocabulary.builtIn.programName ≠ "" ∧
      "status" ∈ Vocabulary.builtIn.intents ∧ "project" ∈ Vocabulary.builtIn.targets) ∧
      ∃ p, IsReadAs .builtIn "mender status project" "status" "project" p := by
  have hname : Vocabulary.builtIn.programName ≠ "" := by decide
  have hintent : "status" ∈ Vocabulary.builtIn.intents := by decide
  have htarget : "project" ∈ Vocabulary.builtIn.targets := by decide
  have hline : ofArguments Vocabulary.builtIn.programName ["status", "project"] =
      "mender status project" := by
    decide +kernel
  refine ⟨⟨Vocabulary.builtIn_checked, hname, hintent, htarget⟩, ?_⟩
  rw [← hline, typed_declared_iff Vocabulary.builtIn_checked hname hintent htarget]
  decide +kernel

/-- A vocabulary with hyphens in an intent and in a target. -/
def hyphenated : Vocabulary where
  programName := "ops"
  intents := ["status", "dry-run"]
  targetRequired := []
  defaultIntent := "status"
  targets := ["project", "load-balancer"]
  synonyms := ∅

/-- The same vocabulary for a program without a name. -/
def unnamed : Vocabulary := { hyphenated with programName := "" }

/-- Not every declared command can be typed: a line that goes on with a hyphenated intent is natural
language, a hyphenated target is read as a modifier, and a program without a name is never
called. -/
theorem not_typed_declared :
    (hyphenated.checked = .ok hyphenated ∧
      "dry-run" ∈ hyphenated.intents ∧ "project" ∈ hyphenated.targets ∧
      ¬ ∃ p, IsReadAs hyphenated (ofArguments hyphenated.programName ["dry-run", "project"])
        "dry-run" "project" p) ∧
    ("status" ∈ hyphenated.intents ∧ "load-balancer" ∈ hyphenated.targets ∧
      ¬ ∃ p, IsReadAs hyphenated (ofArguments hyphenated.programName ["status", "load-balancer"])
        "status" "load-balancer" p) ∧
    (unnamed.checked = .ok unnamed ∧ "status" ∈ unnamed.intents ∧ "project" ∈ unnamed.targets ∧
      ¬ ∃ p, IsReadAs unnamed (ofArguments unnamed.programName ["status", "project"])
        "status" "project" p) := by
  refine ⟨⟨by decide +kernel, by decide, by decide, ?_⟩, ⟨by decide, by decide, ?_⟩,
    ⟨by decide +kernel, by decide, by decide, ?_⟩⟩
  · rintro ⟨p, h⟩
    have hform : (read hyphenated (ofArguments hyphenated.programName ["dry-run", "project"])).map
        (·.form) = .ok .naturalLanguage := by
      decide +kernel
    rw [h.read, Except.map, h.form] at hform
    cases hform
  · rintro ⟨p, h⟩
    have htarget : (read hyphenated
        (ofArguments hyphenated.programName ["status", "load-balancer"])).map
          (·.command.target) = .ok "" := by
      decide +kernel
    rw [h.read, Except.map, h.target] at htarget
    exact absurd (Except.ok.inj htarget) (by decide)
  · rintro ⟨p, h⟩
    have hform := form_of_unnamed rfl h.read
    rw [h.form] at hform
    cases hform

end Line

end Emend
