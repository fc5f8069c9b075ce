import Emend.Proofs.Repair.Soundness

/-!
# What is found is not thrown away

What is done with a result is decided by its confidence and by which commands it holds.  The policy
does not ask where these come from, and the strategies choose their confidences without regard to
the policy, so a fix could be found and then passed over.  It never is: each confidence of a single
command is one at which a lone command is taken, and each confidence of options is one at which
options are shown (`levelsInBands`).

`decision_agrees` puts this together over all chains and all commands: a decision is in one of
three states, which exclude each other, the confidence is full for a command that was known to be
grammatical and for no other, and what the first strategy that applies has proposed is all there in
the result and is not passed on.
-/

namespace Emend

/-! ## Confidences and bands -/

/-- Where the confidences of the strategies lie among the bounds of the policy. -/
structure LevelsInBands : Prop where
  takes : ∀ {s : Strategy} {level : Binary64}, level ∈ s.fixLevels →
    RepairResult.autoCorrectThreshold.below level = true ∨
      (RepairResult.singleFixFloor.atMost level = true ∧
        level.below RepairResult.autoCorrectThreshold = true)
  shows : ∀ {s : Strategy} {level : Binary64}, level ∈ s.optionLevels →
    RepairResult.presentOptionsFloor.atMost level = true ∧
      level.atMost RepairResult.autoCorrectThreshold = true
  /-- No strategy is as sure of a command as if it had been grammatical from the start. -/
  ne_full : ∀ {s : Strategy} {level : Binary64}, level ∈ s.fixLevels ++ s.optionLevels →
    level ≠ Confidence.hundredths 100
  unrepaired_ne_full : Confidence.unrepaired ≠ Confidence.hundredths 100
  takes_valid : RepairResult.autoCorrectThreshold.below Confidence.alreadyValid = true

/-- The confidences are floating-point numbers, so they are compared by computation, once. -/
theorem levelsInBands : LevelsInBands where
  takes := by
    intro s level
    revert level
    cases s <;> decide +kernel
  shows := by
    intro s level
    revert level
    cases s <;> decide +kernel
  ne_full := by
    intro s level
    revert level
    cases s <;> decide +kernel
  unrepaired_ne_full := by decide +kernel
  takes_valid := by decide +kernel

/-! ## States -/

/-- A repair that came to nothing: no command, no confidence, and the text is passed on. -/
def RepairDecision.IsUnrepaired (d : RepairDecision) : Prop :=
  d.result.repaired = none ∧ d.result.candidates = [] ∧
    d.result.confidence = Binary64.zero false ∧ d.result.finding = none ∧
    d.action = .failToBackend

/-- What no strategy applies to comes to nothing. -/
theorem isUnrepaired_unrepaired (c : Command) :
    (RepairResult.unrepaired c).decided.IsUnrepaired := by
  refine ⟨rfl, rfl, ?_, rfl, rfl⟩
  show Confidence.unrepaired = Binary64.zero false
  decide +kernel

/-- What a strategy proposes keeps its name, so it does not pass for nothing. -/
theorem not_isUnrepaired_ofProposal (c : Command) (s : Strategy) (p : Proposal) :
    ¬ (RepairResult.ofProposal c s p).decided.IsUnrepaired := by
  intro hunrepaired
  have hnone : (RepairResult.ofProposal c s p).finding = none := hunrepaired.2.2.2.1
  rw [RepairResult.finding_ofProposal] at hnone
  cases hnone

/-- The states of a decision, by what is done: there is a command and it is taken, there are
options and they are shown, or there is nothing and the text is passed on. -/
def RepairDecision.InState (d : RepairDecision) : Action → Prop
  | .autoCorrect =>
      d.result.repaired ≠ none ∧ d.result.candidates = [] ∧ d.action = .autoCorrect
  | .presentOptions =>
      d.result.repaired = none ∧ d.result.candidates ≠ [] ∧ d.action = .presentOptions
  | .failToBackend => d.IsUnrepaired

/-- The state of a decision says what is done. -/
theorem RepairDecision.InState.action_eq {d : RepairDecision} {a : Action} (h : d.InState a) :
    d.action = a := by
  cases a with
  | autoCorrect => exact h.2.2
  | presentOptions => exact h.2.2
  | failToBackend => exact h.2.2.2.2

/-- A decision is in no more than one state, as the state tells what is done. -/
theorem RepairDecision.InState.existsUnique {d : RepairDecision} {a : Action} (h : d.InState a) :
    ∃! b, d.InState b := by
  refine ⟨a, h, ?_⟩
  intro b hb
  rw [← hb.action_eq, h.action_eq]

/-- A result without commands, field by field. -/
theorem RepairResult.isUnrepaired_iff {r : RepairResult} :
    r.isUnrepaired = true ↔ r.repaired = none ∧ r.candidates = [] := by
  simp [RepairResult.isUnrepaired]

/-- In each of the states, what holds no command has come to nothing in every other respect. -/
theorem RepairDecision.InState.isUnrepaired_iff_holdsNothing {d : RepairDecision} {a : Action}
    (h : d.InState a) :
    d.IsUnrepaired ↔ d.result.repaired = none ∧ d.result.candidates = [] := by
  refine ⟨fun hnothing => ⟨hnothing.1, hnothing.2.1⟩, fun hnone => ?_⟩
  cases a with
  | autoCorrect => exact absurd hnone.1 h.1
  | presentOptions => exact absurd hnone.2 h.2.1
  | failToBackend => exact h

/-- In each of the states, a text is passed on if the repair has come to nothing, and only then. -/
theorem RepairDecision.InState.isUnrepaired_iff_action {d : RepairDecision} {a : Action}
    (h : d.InState a) : d.IsUnrepaired ↔ d.action = .failToBackend := by
  refine ⟨fun hnothing => hnothing.2.2.2.2, fun haction => ?_⟩
  obtain rfl : a = .failToBackend := h.action_eq.symm.trans haction
  exact h

/-- A command that is known to be grammatical is taken. -/
theorem inState_ofValid (c : Command) : (RepairResult.ofValid c).decided.InState .autoCorrect := by
  refine ⟨Option.some_ne_none c, rfl, ?_⟩
  simp [RepairResult.decided, RepairResult.action, RepairResult.takesRepair, RepairResult.ofValid,
    levelsInBands.takes_valid]

/-- What no strategy applies to is passed on. -/
theorem inState_unrepaired (c : Command) :
    (RepairResult.unrepaired c).decided.InState .failToBackend :=
  isUnrepaired_unrepaired c

/-- A single command that is proposed is taken. -/
theorem inState_single (c d : Command) {s : Strategy} {level : Binary64}
    (hlevel : level ∈ s.fixLevels) (explanation : String) :
    (RepairResult.ofProposal c s (.single d level explanation)).decided.InState .autoCorrect := by
  have htakes := levelsInBands.takes hlevel
  refine ⟨Option.some_ne_none d, rfl, ?_⟩
  simp [RepairResult.decided, RepairResult.action, RepairResult.takesRepair,
    RepairResult.ofProposal, RepairResult.hasCandidates, htakes]

/-- Options that are proposed are shown. -/
theorem inState_options (c : Command) {s : Strategy} {ds : List Command} {level : Binary64}
    (hne : ds ≠ []) (hlevel : level ∈ s.optionLevels) (explanation : String) :
    (RepairResult.ofProposal c s (.options ds level explanation)).decided.InState
      .presentOptions := by
  have hshows := levelsInBands.shows hlevel
  refine ⟨rfl, hne, ?_⟩
  simp [RepairResult.decided, RepairResult.action, RepairResult.takesRepair,
    RepairResult.showsOptions, RepairResult.ofProposal, RepairResult.hasCandidates, hne, hshows]

/-- **A proposal is never passed over**, whichever strategy it comes from. -/
theorem inState_ofProposal {v : Vocabulary} {c : Command} {s : Strategy} {p : Proposal}
    (h : Proposes v c s p) :
    ∃ a, a ≠ .failToBackend ∧ (RepairResult.ofProposal c s p).decided.InState a := by
  cases h with
  | single _ _ hlevel => exact ⟨.autoCorrect, by decide, inState_single c _ hlevel _⟩
  | options hne _ hlevel => exact ⟨.presentOptions, by decide, inState_options c hne hlevel _⟩

/-! ## Agreement -/

/-- The confidence of a result of a strategy: that of single commands if it holds one, and that of
options if it holds those. -/
def RepairResult.HasLevelOf (r : RepairResult) (s : Strategy) : Prop :=
  (r.repaired ≠ none → r.confidence ∈ s.fixLevels) ∧
    (r.candidates ≠ [] → r.confidence ∈ s.optionLevels)

/-- What a strategy proposes has a confidence of that strategy. -/
theorem Proposes.hasLevelOf {v : Vocabulary} {c : Command} {s : Strategy} {p : Proposal}
    (h : Proposes v c s p) : (RepairResult.ofProposal c s p).HasLevelOf s := by
  cases h with
  | single _ _ hlevel => exact ⟨fun _ => hlevel, fun hne => absurd rfl hne⟩
  | options _ _ hlevel => exact ⟨fun hne => absurd rfl hne, fun _ => hlevel⟩

/-- What is proposed never has full confidence. -/
theorem Proposes.confidence_ne_full {v : Vocabulary} {c : Command} {s : Strategy} {p : Proposal}
    (h : Proposes v c s p) :
    (RepairResult.ofProposal c s p).confidence ≠ Confidence.hundredths 100 := by
  cases h with
  | single _ _ hlevel => exact levelsInBands.ne_full (List.mem_append_left _ hlevel)
  | options _ _ hlevel => exact levelsInBands.ne_full (List.mem_append_right _ hlevel)

/-- What a decision about a command must look like for engine and policy to agree. -/
structure RepairDecision.Agrees (d : RepairDecision) (v : Vocabulary) (strategies : List Strategy)
    (c : Command) : Prop where
  state : ∃! a, d.InState a
  full : d.result.confidence = Confidence.hundredths 100 ↔ c.isValid = true
  valid : c.isValid = true →
    d.result.repaired = some c ∧ d.result.finding = some .alreadyValid
  level : c.isValid = false → d.IsUnrepaired ∨
    ∃ s ∈ strategies, d.result.finding = some (.strategy s) ∧ d.result.HasLevelOf s
  kept : c.isValid = false → ∀ before s after p, strategies = before ++ s :: after →
    (∀ t ∈ before, t.attempt v c = none) → s.attempt v c = some p →
      d.result.finding = some (.strategy s) ∧ d.result.commands = p.commands ∧
        d.action ≠ .failToBackend

theorem agrees_ofValid (v : Vocabulary) (strategies : List Strategy) {c : Command}
    (hmark : c.isValid = true) : (RepairResult.ofValid c).decided.Agrees v strategies c where
  state := (inState_ofValid c).existsUnique
  full := iff_of_true rfl hmark
  valid := fun _ => ⟨rfl, rfl⟩
  level := fun hnot => by rw [hmark] at hnot; cases hnot
  kept := fun hnot => by rw [hmark] at hnot; cases hnot

/-- The proposal of the first strategy that applies is all there in the result, and it is not passed
on. -/
theorem kept_tryStrategies (v : Vocabulary) (strategies : List Strategy) (c : Command) :
    ∀ before s after p, strategies = before ++ s :: after →
      (∀ t ∈ before, t.attempt v c = none) → s.attempt v c = some p →
        (tryStrategies v c strategies).finding = some (.strategy s) ∧
          (tryStrategies v c strategies).commands = p.commands ∧
          (tryStrategies v c strategies).action ≠ .failToBackend := by
  intro before s after p hstrategies hbefore hs
  rw [hstrategies, tryStrategies_of_first hbefore hs]
  obtain ⟨a, hne, hstate⟩ := inState_ofProposal (Strategy.attempt_proposes hs)
  refine ⟨RepairResult.finding_ofProposal c s p, RepairResult.commands_ofProposal c s p, ?_⟩
  intro hpassed
  exact hne (hstate.action_eq.symm.trans hpassed)

/-- Engine and policy agree on what the strategies come to. -/
theorem agrees_tryStrategies (v : Vocabulary) (strategies : List Strategy) {c : Command}
    (hmark : c.isValid = false) :
    (tryStrategies v c strategies).decided.Agrees v strategies c := by
  have hnotValid : ¬ c.isValid = true := by simp [hmark]
  have hkept := kept_tryStrategies v strategies c
  rcases tryStrategies_proposes v c strategies with heq | ⟨s, hs, p, hproposes, heq⟩
  · rw [heq] at hkept ⊢
    exact
      { state := (inState_unrepaired c).existsUnique
        full := iff_of_false levelsInBands.unrepaired_ne_full hnotValid
        valid := fun h => absurd h hnotValid
        level := fun _ => Or.inl (isUnrepaired_unrepaired c)
        kept := fun _ => hkept }
  · rw [heq] at hkept ⊢
    obtain ⟨a, -, hstate⟩ := inState_ofProposal hproposes
    have hfinding : (RepairResult.ofProposal c s p).finding = some (.strategy s) :=
      RepairResult.finding_ofProposal c s p
    exact
      { state := hstate.existsUnique
        full := iff_of_false hproposes.confidence_ne_full hnotValid
        valid := fun h => absurd h hnotValid
        level := fun _ => Or.inr ⟨s, hs, hfinding, hproposes.hasLevelOf⟩
        kept := fun _ => hkept }

/-- Engine and policy agree on every result. -/
theorem agrees_ofChain (v : Vocabulary) (strategies : List Strategy) (c : Command) :
    (RepairResult.ofChain v strategies c).decided.Agrees v strategies c := by
  cases hmark : c.isValid with
  | true =>
      rw [RepairResult.ofChain_of_valid hmark]
      exact agrees_ofValid v strategies hmark
  | false =>
      rw [RepairResult.ofChain_of_not_valid hmark]
      exact agrees_tryStrategies v strategies hmark

/-- **Engine and policy agree**, on every command that is not blank, under every vocabulary and
for every chain. -/
theorem decision_agrees (v : Vocabulary) (strategies : List Strategy) {c : Command}
    (hblank : c.isBlank = false) :
    ∃ d, repairWithDecision v strategies c = .ok d ∧ d.Agrees v strategies c :=
  ⟨_, repairWithDecision_eq_ok hblank, agrees_ofChain v strategies c⟩

/-- **Whether a decision came to nothing** can be told from the commands of its result, and from what
is done: the five things that are asked of it never come apart. -/
theorem isUnrepaired_iff_of_decision {v : Vocabulary} {strategies : List Strategy} {c : Command}
    {d : RepairDecision} (h : repairWithDecision v strategies c = .ok d) :
    (d.IsUnrepaired ↔ d.result.isUnrepaired = true) ∧
      (d.IsUnrepaired ↔ d.action = .failToBackend) := by
  obtain ⟨-, rfl⟩ := repairWithDecision_eq_ok_iff.mp h
  obtain ⟨a, hstate, -⟩ := (agrees_ofChain v strategies c).state
  rw [RepairResult.isUnrepaired_iff]
  exact ⟨hstate.isUnrepaired_iff_holdsNothing, hstate.isUnrepaired_iff_action⟩

/-- Two intents are equally close and one of them lacks a target: a choice of one is shown. -/
theorem decision_agrees_lis :
    let v : Vocabulary :=
      { programName := "ops", intents := ["list", "lisp"], targetRequired := ["lisp"],
        defaultIntent := "list", targets := [], synonyms := ∅ }
    let c := Command.ofParts "ops lis" "lis" "" ∅
    v.checked = .ok v ∧ c.isBlank = false ∧
      ∃ d, repairWithDecision v Strategy.all c = .ok d ∧ d.Agrees v Strategy.all c ∧
        d.action = .presentOptions ∧ d.result.candidates.map (·.intent) = ["list"] ∧
        d.result.confidence = Confidence.hundredths 70 := by
  intro v c
  have hchecked : v.checked = .ok v := by decide +kernel
  have hblank : c.isBlank = false := by decide +kernel
  obtain ⟨d, hd, hagrees⟩ := decision_agrees v Strategy.all hblank
  have hshown : (repairWithDecision v Strategy.all c).toOption.map
      (fun d => (d.action, d.result.candidates.map (·.intent), d.result.confidence)) =
        some (.presentOptions, ["list"], Confidence.hundredths 70) := by
    decide +kernel
  rw [hd] at hshown
  simp only [Except.toOption, Option.map_some, Option.some.injEq, Prod.mk.injEq] at hshown
  exact ⟨hchecked, hblank, d, hd, hagrees, hshown⟩

end Emend
