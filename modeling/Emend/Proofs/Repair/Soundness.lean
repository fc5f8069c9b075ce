import Emend.Proofs.Repair.Strategies

/-!
# What a repair may change

A strategy reads a command as another one: with its modifiers in another form, with its words in
other places, or with words of the vocabulary in the place of its own.  `Reading` lists these
readings, one for each place where a strategy makes a command, and `attempt_proposes` says that
nothing else is ever proposed: every proposed command is a reading that was approved, there is at
least one, and the confidence is one that the strategy is entitled to.

What holds of all repairs follows from this without another look at the strategies.  `repair_sound`
says of every proposal and of every result of a chain that its commands are grammatical, marked
so, and differ from the submitted one only in what the strategy is there to change.
-/

namespace Emend

/-! ## Readings -/

/-- The readings of a command, by the strategy that has them. -/
inductive Reading (v : Vocabulary) (c : Command) : Strategy → Command → Prop
  | normalForm :
      Reading v c .flagNormalization (c.restateModifiers (Modifiers.normalized c.modifiers))
  | swapped (hintent : c.intent ≠ "") (htarget : v.isIntent c.target = true) :
      Reading v c .argumentOrder (c.restate (lowercase c.target) c.intent)
  | promoted (hintent : c.intent = "") (htarget : v.isIntent c.target = true) :
      Reading v c .argumentOrder (c.restate (lowercase c.target) "")
  | defaulted (hintent : v.isTarget c.intent = true) :
      Reading v c .argumentOrder (c.restate v.defaultIntent c.intent)
  | synonym {intent : String} (hintent : v.synonym? c.intent = some intent) :
      Reading v c .synonymExpansion (c.restate intent c.target)
  | intentCorrected {found : List NearEntry} {m : NearEntry}
      (hintent : Strategy.intentMatches? v c = some found)
      (htarget : Strategy.targetMatches? v c = none) (hm : m ∈ found) :
      Reading v c .typoCorrection (c.restate m.entry c.target)
  | targetCorrected {found : List NearEntry} {m : NearEntry}
      (hintent : Strategy.intentMatches? v c = none)
      (htarget : Strategy.targetMatches? v c = some found) (hm : m ∈ found) :
      Reading v c .typoCorrection (c.restate c.intent m.entry)
  | bothCorrected {intents targets : List NearEntry} {i t : NearEntry}
      (hintent : Strategy.intentMatches? v c = some intents)
      (htarget : Strategy.targetMatches? v c = some targets)
      (hi : i ∈ intents) (ht : t ∈ targets) :
      Reading v c .typoCorrection (c.restate i.entry t.entry)

namespace Strategy

/-- How sure a strategy can be of a single command. -/
def fixLevels : Strategy → List Binary64
  | flagNormalization => [Confidence.hundredths 98]
  | argumentOrder => [Confidence.hundredths 95]
  | synonymExpansion => [Confidence.hundredths 95]
  | typoCorrection => [Confidence.hundredths 95, Confidence.hundredths 85]

/-- How sure a strategy can be of options.  Only corrections leave a choice. -/
def optionLevels : Strategy → List Binary64
  | typoCorrection => [Confidence.hundredths 70, Confidence.hundredths 60]
  | _ => []

/-- However many edits a correction takes, its confidence is one of the two levels. -/
theorem ofEdits_mem_fixLevels (d : Nat) : Confidence.ofEdits d ∈ typoCorrection.fixLevels := by
  unfold Confidence.ofEdits
  split
  · exact List.mem_cons_self
  · exact List.mem_cons_of_mem _ List.mem_cons_self

end Strategy

/-- What a strategy may propose: an approved reading, or several. -/
inductive Proposes (v : Vocabulary) (c : Command) (s : Strategy) : Proposal → Prop
  | single {r d : Command} {level : Binary64} {explanation : String}
      (reading : Reading v c s r) (approved : v.approve r = some d)
      (hlevel : level ∈ s.fixLevels) :
      Proposes v c s (.single d level explanation)
  | options {ds : List Command} {level : Binary64} {explanation : String}
      (hne : ds ≠ []) (approved : ∀ d ∈ ds, ∃ r, Reading v c s r ∧ v.approve r = some d)
      (hlevel : level ∈ s.optionLevels) :
      Proposes v c s (.options ds level explanation)

namespace Strategy

variable {v : Vocabulary} {c : Command} {s : Strategy} {p : Proposal}

/-- An approved reading with a level of the strategy is something that it may propose. -/
theorem proposes_of_approve {r : Command} {level : Binary64} {explanation : String}
    (hreading : Reading v c s r) (hlevel : level ∈ s.fixLevels)
    (h : (v.approve r).map (fun d => .single d level explanation) = some p) :
    Proposes v c s p := by
  obtain ⟨d, happroved, rfl⟩ := Option.map_eq_some_iff.mp h
  exact .single hreading happroved hlevel

/-- Normalization proposes the command with its modifiers in form. -/
theorem normalizeModifiers_proposes (h : normalizeModifiers v c = some p) :
    Proposes v c flagNormalization p := by
  unfold normalizeModifiers at h
  split at h
  · cases h
  · exact proposes_of_approve .normalForm List.mem_cons_self h

theorem swapArguments_proposes (h : swapArguments v c = some p) :
    Proposes v c argumentOrder p := by
  unfold swapArguments at h
  split at h
  · next hswap =>
      exact proposes_of_approve (.swapped hswap.1 hswap.2.2) List.mem_cons_self h
  · cases h

theorem promoteTarget_proposes (h : promoteTarget v c = some p) :
    Proposes v c argumentOrder p := by
  unfold promoteTarget at h
  split at h
  · next hpromote =>
      exact proposes_of_approve (.promoted hpromote.1 hpromote.2) List.mem_cons_self h
  · cases h

theorem assumeDefaultIntent_proposes (h : assumeDefaultIntent v c = some p) :
    Proposes v c argumentOrder p := by
  unfold assumeDefaultIntent at h
  split at h
  · next hassume =>
      exact proposes_of_approve (.defaulted hassume.2.2) List.mem_cons_self h
  · cases h

/-- Argument order proposes what the first of its three rules does. -/
theorem orderArguments_proposes (h : orderArguments v c = some p) :
    Proposes v c argumentOrder p := by
  have hfirst : swapArguments v c = some p ∨ swapArguments v c = none ∧
      (promoteTarget v c = some p ∨
        promoteTarget v c = none ∧ assumeDefaultIntent v c = some p) := by
    simpa [orderArguments] using h
  rcases hfirst with hswap | ⟨-, hpromote | ⟨-, hassume⟩⟩
  · exact swapArguments_proposes hswap
  · exact promoteTarget_proposes hpromote
  · exact assumeDefaultIntent_proposes hassume

/-- Expansion proposes the intent that the synonym stands for. -/
theorem expandSynonym_proposes (h : expandSynonym v c = some p) :
    Proposes v c synonymExpansion p := by
  obtain ⟨intent, hintent, h⟩ := Option.bind_eq_some_iff.mp h
  exact proposes_of_approve (.synonym hintent) List.mem_cons_self h

/-- A list of readings comes to one approved command if there is one reading, and to the approved
ones among several. -/
theorem propose_proposes {readings : List Command} {level optionsLevel : Binary64}
    {explanation optionsExplanation : String} (hreadings : ∀ r ∈ readings, Reading v c s r)
    (hlevel : level ∈ s.fixLevels) (hoptions : optionsLevel ∈ s.optionLevels)
    (h : propose v readings level explanation optionsLevel optionsExplanation = some p) :
    Proposes v c s p := by
  unfold propose at h
  split at h
  · cases h
  · next only => exact proposes_of_approve (hreadings only List.mem_cons_self) hlevel h
  · split at h
    · cases h
    · next hne =>
        cases h
        refine .options hne ?_ hoptions
        intro d hd
        obtain ⟨r, hr, happroved⟩ := List.mem_filterMap.mp hd
        exact ⟨r, hreadings r hr, happroved⟩

/-- Corrections propose approved readings, a single one or several. -/
theorem correctTypos_proposes (h : correctTypos v c = some p) :
    Proposes v c typoCorrection p := by
  have hword : Confidence.ambiguousWord ∈ typoCorrection.optionLevels := List.mem_cons_self
  have hpair : Confidence.ambiguousPair ∈ typoCorrection.optionLevels :=
    List.mem_cons_of_mem _ List.mem_cons_self
  unfold correctTypos at h
  split at h
  · cases h
  · next intents hintent htarget =>
      refine propose_proposes ?_ (ofEdits_mem_fixLevels _) hword h
      intro r hr
      obtain ⟨m, hm, rfl⟩ := List.mem_map.mp hr
      exact .intentCorrected hintent htarget hm
  · next targets hintent htarget =>
      refine propose_proposes ?_ (ofEdits_mem_fixLevels _) hword h
      intro r hr
      obtain ⟨m, hm, rfl⟩ := List.mem_map.mp hr
      exact .targetCorrected hintent htarget hm
  · next intents targets hintent htarget =>
      refine propose_proposes ?_ (ofEdits_mem_fixLevels _) hpair h
      intro r hr
      obtain ⟨i, hi, hr⟩ := List.mem_flatMap.mp hr
      obtain ⟨t, ht, rfl⟩ := List.mem_map.mp hr
      exact .bothCorrected hintent htarget hi ht

/-- **Nothing but approved readings is proposed**, whatever the vocabulary. -/
theorem attempt_proposes (h : s.attempt v c = some p) : Proposes v c s p := by
  cases s with
  | flagNormalization => exact normalizeModifiers_proposes h
  | argumentOrder => exact orderArguments_proposes h
  | synonymExpansion => exact expandSynonym_proposes h
  | typoCorrection => exact correctTypos_proposes h

end Strategy

/-- No proposal is empty. -/
theorem Proposes.commands_ne_nil {v : Vocabulary} {c : Command} {s : Strategy} {p : Proposal}
    (h : Proposes v c s p) : p.commands ≠ [] := by
  cases h with
  | single => exact List.cons_ne_nil _ _
  | options hne => exact hne

/-- Each command of a proposal is an approved reading. -/
theorem Proposes.exists_reading {v : Vocabulary} {c d : Command} {s : Strategy} {p : Proposal}
    (h : Proposes v c s p) (hd : d ∈ p.commands) :
    ∃ r, Reading v c s r ∧ v.approve r = some d := by
  cases h with
  | single hreading happroved _ =>
      obtain rfl := List.mem_singleton.mp hd
      exact ⟨_, hreading, happroved⟩
  | options _ happroved _ => exact happroved d hd

/-! ## The frame of a repair -/

/-- A command that may be put in the place of another: grammatical and marked so, with the text and
the metadata of the other.  Only normalization touches the modifiers, and it touches nothing
else. -/
structure IsRepairOf (v : Vocabulary) (s : Strategy) (c d : Command) : Prop where
  marked : d.isValid = true
  grammatical : v.validateCommand d = .ok ()
  raw : d.raw = c.raw
  metadata : d.metadata = c.metadata
  modifiers : s ≠ .flagNormalization → d.modifiers = c.modifiers
  words : s = .flagNormalization → d.intent = c.intent ∧ d.target = c.target

/-- Approval looks at the words of a command only, so what it approved is still grammatical with
the mark set. -/
theorem Reading.isRepairOf {v : Vocabulary} {s : Strategy} {c r d : Command}
    (hreading : Reading v c s r) (happroved : v.approve r = some d) : IsRepairOf v s c d := by
  obtain ⟨hvalid, rfl⟩ := Vocabulary.approve_eq_some_iff.mp happroved
  have hgrammatical : v.validateCommand (r.withValidity true) = .ok () := hvalid
  cases hreading with
  | normalForm =>
      exact ⟨rfl, hgrammatical, rfl, rfl, fun hs => absurd rfl hs, fun _ => ⟨rfl, rfl⟩⟩
  | _ => exact ⟨rfl, hgrammatical, rfl, rfl, fun _ => rfl, fun hs => by cases hs⟩

/-- Each command of a proposal may be put in the place of the one that it is for. -/
theorem Proposes.isRepairOf {v : Vocabulary} {s : Strategy} {c : Command} {p : Proposal}
    (h : Proposes v c s p) : ∀ d ∈ p.commands, IsRepairOf v s c d := by
  intro d hd
  obtain ⟨r, hreading, happroved⟩ := h.exists_reading hd
  exact hreading.isRepairOf happroved

/-- Modifiers are not looked at, so a command that is not grammatical has no repair by its
modifiers alone. -/
theorem IsRepairOf.ne_flagNormalization {v : Vocabulary} {s : Strategy} {c d : Command}
    (h : IsRepairOf v s c d) (hc : v.validateCommand c ≠ .ok ()) : s ≠ .flagNormalization := by
  intro hs
  obtain ⟨hintent, htarget⟩ := h.words hs
  apply hc
  have hgrammatical := Vocabulary.validateCommand_eq_ok_iff.mp h.grammatical
  rw [hintent, htarget] at hgrammatical
  exact Vocabulary.validateCommand_eq_ok_iff.mpr hgrammatical

/-! ## Results of a chain -/

/-- The commands of a result: the repaired one and the candidates. -/
def RepairResult.commands (r : RepairResult) : List Command := r.repaired.toList ++ r.candidates

@[simp] theorem RepairResult.commands_ofProposal (c : Command) (s : Strategy) (p : Proposal) :
    (RepairResult.ofProposal c s p).commands = p.commands := by
  cases p <;> rfl

@[simp] theorem RepairResult.submitted_ofProposal (c : Command) (s : Strategy) (p : Proposal) :
    (RepairResult.ofProposal c s p).submitted = c := by
  cases p <;> rfl

/-- The commands of a result are its repaired command and its options. -/
theorem RepairResult.mem_commands {r : RepairResult} {d : Command} :
    d ∈ r.commands ↔ r.repaired = some d ∨ d ∈ r.candidates := by
  simp [RepairResult.commands]

/-- The result of a chain holds no command, or what one of its strategies may propose. -/
theorem tryStrategies_proposes (v : Vocabulary) (c : Command) (strategies : List Strategy) :
    tryStrategies v c strategies = .unrepaired c ∨
      ∃ s ∈ strategies, ∃ p, Proposes v c s p ∧
        tryStrategies v c strategies = .ofProposal c s p := by
  rcases tryStrategies_cases v c strategies with ⟨-, heq⟩ | ⟨before, s, after, p, hs, -, hp, heq⟩
  · exact Or.inl heq
  · refine Or.inr ⟨s, ?_, p, Strategy.attempt_proposes hp, heq⟩
    rw [hs]
    exact List.mem_append_right _ List.mem_cons_self

/-- A chain reports the command that was submitted to it. -/
theorem RepairResult.submitted_ofChain (v : Vocabulary) (strategies : List Strategy)
    (c : Command) : (RepairResult.ofChain v strategies c).submitted = c := by
  cases hmark : c.isValid with
  | true =>
      rw [RepairResult.ofChain_of_valid hmark]
      rfl
  | false =>
      rw [RepairResult.ofChain_of_not_valid hmark]
      rcases tryStrategies_proposes v c strategies with heq | ⟨s, -, p, -, heq⟩
      · rw [heq]
        rfl
      · rw [heq, RepairResult.submitted_ofProposal]

/-- Whatever a chain comes to is grammatical and marked so, unless the mark of the submitted command
was wrong. -/
theorem grammatical_of_mem_commands {v : Vocabulary} {strategies : List Strategy}
    {c d : Command} (hmark : c.isValid = true → v.validateCommand c = .ok ())
    (hd : d ∈ (RepairResult.ofChain v strategies c).commands) :
    d.isValid = true ∧ v.validateCommand d = .ok () := by
  cases hvalid : c.isValid with
  | true =>
      rw [RepairResult.ofChain_of_valid hvalid] at hd
      obtain rfl : d = c := List.mem_singleton.mp hd
      exact ⟨hvalid, hmark hvalid⟩
  | false =>
      rw [RepairResult.ofChain_of_not_valid hvalid] at hd
      rcases tryStrategies_proposes v c strategies with heq | ⟨s, -, p, hproposes, heq⟩
      · rw [heq] at hd
        cases hd
      · rw [heq, RepairResult.commands_ofProposal] at hd
        have hrepair : IsRepairOf v s c d := hproposes.isRepairOf d hd
        exact ⟨hrepair.marked, hrepair.grammatical⟩

/-- **Every repair is sound.**  Under any vocabulary, checked or not, a proposal holds a command,
and all its commands are repairs of the given one; and the same is true of the repaired command
and the candidates that any chain comes to, with the submitted command reported as it was. -/
theorem repair_sound :
    (∀ (v : Vocabulary) (s : Strategy) (c : Command) (p : Proposal), s.attempt v c = some p →
      p.commands ≠ [] ∧ ∀ d ∈ p.commands, IsRepairOf v s c d) ∧
    (∀ (v : Vocabulary) (strategies : List Strategy) (c : Command), c.isBlank = false →
      c.isValid = false →
      ∃ r, repair v strategies c = .ok r ∧ r.submitted = c ∧
        ∀ d, r.repaired = some d ∨ d ∈ r.candidates →
          ∃ s ∈ strategies, r.finding = some (.strategy s) ∧ IsRepairOf v s c d) := by
  constructor
  · intro v s c p hp
    have hproposes : Proposes v c s p := Strategy.attempt_proposes hp
    exact ⟨hproposes.commands_ne_nil, hproposes.isRepairOf⟩
  · intro v strategies c hblank hmark
    refine ⟨_, repair_eq_ok hblank, ?_⟩
    rw [RepairResult.ofChain_of_not_valid hmark]
    rcases tryStrategies_proposes v c strategies with heq | ⟨s, hs, p, hproposes, heq⟩
    · rw [heq]
      refine ⟨rfl, ?_⟩
      intro d hd
      rcases hd with hd | hd <;> cases hd
    · rw [heq]
      refine ⟨RepairResult.submitted_ofProposal c s p, ?_⟩
      intro d hd
      have hmem : d ∈ (RepairResult.ofProposal c s p).commands := by
        simpa [RepairResult.commands] using hd
      rw [RepairResult.commands_ofProposal] at hmem
      exact ⟨s, hs, RepairResult.finding_ofProposal c s p, hproposes.isRepairOf d hmem⟩

/-- Both words of a command are misspelled and the target can mean two things: two candidates, with
the modifier and the project of the command. -/
theorem repair_sound_anlyze_rild :
    let c : Command :=
      { raw := "mender anlyze rild --Depth=3", intent := "anlyze", target := "rild",
        modifiers := .ofList [("Depth", "3")], metadata := { projectPath := some "/srv/app" } }
    (∃ p, Strategy.typoCorrection.attempt .builtIn c = some p ∧
      p.commands.map (·.target) = ["risk", "build"] ∧
      p.commands ≠ [] ∧ ∀ d ∈ p.commands, IsRepairOf .builtIn .typoCorrection c d) ∧
    c.isBlank = false ∧ c.isValid = false ∧
      ∃ r, repair .builtIn Strategy.all c = .ok r ∧ r.submitted = c ∧
        ∀ d, r.repaired = some d ∨ d ∈ r.candidates →
          ∃ s ∈ Strategy.all, r.finding = some (.strategy s) ∧ IsRepairOf .builtIn s c d := by
  intro c
  obtain ⟨hproposal, hresult⟩ := repair_sound
  have hblank : c.isBlank = false := by decide +kernel
  have htargets : (Strategy.typoCorrection.attempt .builtIn c).map
      (fun p => p.commands.map (·.target)) = some ["risk", "build"] := by decide +kernel
  obtain ⟨p, hp, hcommands⟩ := Option.map_eq_some_iff.mp htargets
  exact ⟨⟨p, hp, hcommands, hproposal .builtIn .typoCorrection c p hp⟩, hblank, rfl,
    hresult .builtIn Strategy.all c hblank rfl⟩

end Emend
