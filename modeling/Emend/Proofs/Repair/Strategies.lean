import Emend.Proofs.NearestEntries
import Emend.Proofs.Vocabulary
import Emend.Repair.Decision

/-!
# When a strategy applies

A strategy puts words in other places and then has the command approved, so it may find a slip
and still propose nothing.  Over a consistent vocabulary approval has only one thing left to
refuse: an intent that needs a target and has none.  The conditions under which each strategy
applies can therefore be read off the command:

* `orderArguments_isSome_iff` — `ArgumentsMisplaced`;
* `expandSynonym_isSome_iff` — `IntentIsSynonym`;
* `correctTypos_isSome_iff` — `IntentMisspelled`, for a command that is not grammatical;
* `normalizeModifiers_eq_none` — never, for a command that is not grammatical.

`tryStrategies_cases` says what a chain makes of them: the result is that of the first strategy
that applies.  For a command that is not blank, a repair comes to `RepairResult.ofChain`, and a
decision to that result with what the policy makes of it.
-/

namespace Emend

namespace Vocabulary

/-! ## The slips -/

/-- An intent or a target stands where the other belongs. -/
def ArgumentsMisplaced (v : Vocabulary) (c : Command) : Prop :=
  (c.intent ≠ "" ∧ c.target ≠ "" ∧ lowercase c.target ∈ v.intents) ∨
  (c.intent = "" ∧ lowercase c.target ∈ v.intents ∧ lowercase c.target ∉ v.targetRequired) ∨
  (c.intent ≠ "" ∧ c.target = "" ∧ lowercase c.intent ∈ v.targets)

/-- The intent is a synonym of one that the command has all that is needed for. -/
def IntentIsSynonym (v : Vocabulary) (c : Command) : Prop :=
  ∃ intent, v.synonyms.get? (lowercase c.intent) = some intent ∧
    (c.target ≠ "" ∨ intent ∉ v.targetRequired)

/-- The intent is unknown but one or two edits away from a known one, and the command has all
that is needed for one of those that it is closest to. -/
def IntentMisspelled (v : Vocabulary) (c : Command) : Prop :=
  c.intent ≠ "" ∧ lowercase c.intent ∉ v.intents ∧
    (∃ word ∈ v.intents, 1 ≤ editDistance c.intent word ∧ editDistance c.intent word ≤ 2) ∧
    (c.target ≠ "" ∨
      ∃ word ∈ v.intents,
        (∀ other ∈ v.intents, editDistance c.intent word ≤ editDistance c.intent other) ∧
          word ∉ v.targetRequired)

/-- With an intent and a target that is no intent, the arguments are in place. -/
theorem not_argumentsMisplaced {v : Vocabulary} {c : Command} (hintent : c.intent ≠ "")
    (htarget : c.target ≠ "") (hplain : lowercase c.target ∉ v.intents) :
    ¬ v.ArgumentsMisplaced c := by
  intro hmisplaced
  rcases hmisplaced with ⟨-, -, hdeclared⟩ | ⟨hempty, -⟩ | ⟨-, hempty, -⟩
  · exact hplain hdeclared
  · exact hintent hempty
  · exact htarget hempty

/-- An intent that is no key of the synonyms is no synonym. -/
theorem not_intentIsSynonym {v : Vocabulary} {c : Command}
    (h : v.synonyms.get? (lowercase c.intent) = none) : ¬ v.IntentIsSynonym c := by
  intro hsynonym
  obtain ⟨intent, hget, -⟩ := hsynonym
  rw [h] at hget
  cases hget

end Vocabulary

namespace Strategy

open Vocabulary

variable {v : Vocabulary} {c : Command}

/-! ## Arguments out of place -/

/-- Other words are proposed if they are approved. -/
theorem reorder_isSome (c : Command) (explanation : String) :
    (reorder v c explanation).isSome = (v.approve c).isSome := by
  simp [reorder]

/-- Swapping applies if both words are there and the target is an intent. -/
theorem swapArguments_isSome_iff (hv : v.Consistent) :
    (swapArguments v c).isSome = true ↔
      c.intent ≠ "" ∧ c.target ≠ "" ∧ lowercase c.target ∈ v.intents := by
  rw [swapArguments, ← isIntent_iff, ← hasTarget_iff]
  by_cases h : c.intent ≠ "" ∧ c.hasTarget = true ∧ v.isIntent c.target = true
  · simp only [if_pos h, reorder_isSome, hv.approve_restate_isSome (isIntent_iff.mp h.2.2)]
    exact ⟨fun _ => h, fun _ => Or.inl h.1⟩
  · rw [if_neg h]
    exact iff_of_false (by simp) h

/-- Promotion applies to a lone target that is an intent and needs no target. -/
theorem promoteTarget_isSome_iff (hv : v.Consistent) :
    (promoteTarget v c).isSome = true ↔
      c.intent = "" ∧ lowercase c.target ∈ v.intents ∧
        lowercase c.target ∉ v.targetRequired := by
  rw [promoteTarget]
  by_cases h : c.intent = "" ∧ v.isIntent c.target = true
  · simp only [if_pos h, reorder_isSome, hv.approve_restate_isSome (isIntent_iff.mp h.2)]
    simp [h.1, isIntent_iff.mp h.2]
  · rw [if_neg h, ← isIntent_iff]
    exact iff_of_false (by simp) (fun hall => h ⟨hall.1, hall.2.1⟩)

/-- The default intent is assumed for a lone intent that is a target. -/
theorem assumeDefaultIntent_isSome_iff (hv : v.Consistent) :
    (assumeDefaultIntent v c).isSome = true ↔
      c.intent ≠ "" ∧ c.target = "" ∧ lowercase c.intent ∈ v.targets := by
  have hnone : (!c.hasTarget) = true ↔ c.target = "" := by simp [Command.hasTarget]
  rw [assumeDefaultIntent, ← isTarget_iff, ← hnone]
  by_cases h : c.intent ≠ "" ∧ (!c.hasTarget) = true ∧ v.isTarget c.intent = true
  · simp only [if_pos h, reorder_isSome, hv.approve_restate_isSome hv.default_declared]
    exact ⟨fun _ => h, fun _ => Or.inl h.1⟩
  · rw [if_neg h]
    exact iff_of_false (by simp) h

/-- Argument order applies if one of its three rules does. -/
theorem orderArguments_isSome_iff (hv : v.Consistent) :
    (orderArguments v c).isSome = true ↔ v.ArgumentsMisplaced c := by
  rw [ArgumentsMisplaced, ← swapArguments_isSome_iff hv, ← promoteTarget_isSome_iff hv,
    ← assumeDefaultIntent_isSome_iff hv, orderArguments]
  cases swapArguments v c <;> cases promoteTarget v c <;> simp

/-! ## Synonyms -/

/-- Expansion applies if the meaning of the synonym is approved. -/
theorem expandSynonym_isSome_iff (hv : v.Consistent) :
    (expandSynonym v c).isSome = true ↔ v.IntentIsSynonym c := by
  unfold expandSynonym IntentIsSynonym synonym?
  cases h : v.synonyms.get? (lowercase c.intent) with
  | none => simp
  | some intent =>
      have hdeclared := hv.synonym_declared _ _ h
      simp [hv.approve_restate_isSome hdeclared]

/-! ## Modifiers -/

/-- Normalization steps aside for a command that is not grammatical. -/
theorem normalizeModifiers_eq_none (h : v.validateCommand c ≠ .ok ()) :
    normalizeModifiers v c = none := by
  have happrove : v.approve (c.restateModifiers (Modifiers.normalized c.modifiers)) = none := by
    by_contra hsome
    have hvalid := approve_isSome_iff.mp (Option.isSome_iff_ne_none.mpr hsome)
    exact h hvalid
  unfold normalizeModifiers
  rw [happrove]
  split <;> rfl

/-! ## Misspellings -/

/-- There is a proposal if some reading is grammatical. -/
theorem propose_isSome_iff {readings : List Command} {confidence optionsConfidence : Binary64}
    {explanation optionsExplanation : String} :
    (propose v readings confidence explanation optionsConfidence optionsExplanation).isSome = true ↔
      ∃ r ∈ readings, (v.approve r).isSome = true := by
  unfold propose
  split
  · simp
  · simp
  · cases h : List.filterMap v.approve readings with
    | nil =>
        rw [List.filterMap_eq_nil_iff] at h
        simp only [Option.isSome_none, Bool.false_eq_true, false_iff, not_exists, not_and]
        intro r hr
        simp [h r hr]
    | cons d rest =>
        have hd : d ∈ List.filterMap v.approve readings := by
          rw [h]
          exact List.mem_cons_self
        obtain ⟨r, hr, hrd⟩ := List.mem_filterMap.mp hd
        simp only [Option.isSome_some, true_iff]
        exact ⟨r, hr, by rw [hrd]; rfl⟩

/-- A declared intent is not corrected. -/
theorem intentMatches?_of_mem (h : lowercase c.intent ∈ v.intents) :
    intentMatches? v c = none := if_pos (isIntent_iff.mpr h)

/-- An intent that is not declared is looked for among those that are. -/
theorem intentMatches?_of_not_mem (h : lowercase c.intent ∉ v.intents) :
    intentMatches? v c = some (nearestEntries c.intent v.intents maxEdits) :=
  if_neg (fun hintent => h (isIntent_iff.mp hintent))

/-- An intent that is to be corrected is unknown, and each of its readings is a declared one. -/
theorem intentMatches?_eq_some {found : List NearEntry} (h : intentMatches? v c = some found) :
    lowercase c.intent ∉ v.intents ∧ ∀ m ∈ found, m.entry ∈ v.intents := by
  by_cases hknown : lowercase c.intent ∈ v.intents
  · rw [intentMatches?_of_mem hknown] at h
    cases h
  · rw [intentMatches?_of_not_mem hknown, Option.some_inj] at h
    subst h
    refine ⟨hknown, ?_⟩
    intro m hm
    exact (mem_nearestEntries.mp hm).2.1

/-- A target that is to be corrected is there, and each of its readings is a known one. -/
theorem targetMatches?_eq_some {found : List NearEntry} (h : targetMatches? v c = some found) :
    c.target ≠ "" ∧ found ≠ [] ∧ ∀ m ∈ found, m.entry ∈ v.targets := by
  unfold targetMatches? at h
  split at h
  · next hmissing =>
      split at h
      · cases h
      · next hne =>
          cases h
          refine ⟨hasTarget_iff.mp hmissing.1, hne, ?_⟩
          intro m hm
          exact (mem_nearestEntries.mp hm).2.1
  · cases h

/-- An unknown intent is corrected if the command has all that is needed for one of its
readings; what becomes of the target has no part in it. -/
theorem correctTypos_isSome_of_unknown (hv : v.Consistent) (h : lowercase c.intent ∉ v.intents) :
    (correctTypos v c).isSome = true ↔
      ∃ m ∈ nearestEntries c.intent v.intents maxEdits,
        c.target ≠ "" ∨ m.entry ∉ v.targetRequired := by
  unfold correctTypos
  rw [intentMatches?_of_not_mem h]
  have hdeclared : ∀ m ∈ nearestEntries c.intent v.intents maxEdits, m.entry ∈ v.intents :=
    fun m hm => (mem_nearestEntries.mp hm).2.1
  cases htargets : targetMatches? v c with
  | none =>
      simp only [correctWord, propose_isSome_iff, List.mem_map, exists_exists_and_eq_and]
      constructor
      · intro hsome
        obtain ⟨m, hm, happroved⟩ := hsome
        exact ⟨m, hm, (hv.approve_restate_isSome (hdeclared m hm)).mp happroved⟩
      · intro hsome
        obtain ⟨m, hm, hneeds⟩ := hsome
        exact ⟨m, hm, (hv.approve_restate_isSome (hdeclared m hm)).mpr hneeds⟩
  | some targets =>
      obtain ⟨htarget, hne, hknown⟩ := targetMatches?_eq_some htargets
      simp only [correctPair, propose_isSome_iff, List.mem_flatMap, List.mem_map]
      constructor
      · intro hsome
        obtain ⟨-, ⟨m, hm, -⟩, -⟩ := hsome
        exact ⟨m, hm, Or.inl htarget⟩
      · intro hsome
        obtain ⟨m, hm, -⟩ := hsome
        obtain ⟨t, ht⟩ := List.exists_mem_of_ne_nil targets hne
        refine ⟨_, ⟨m, hm, t, ht, rfl⟩, (hv.approve_restate_isSome (hdeclared m hm)).mpr ?_⟩
        exact Or.inl (hv.target_entry _ (hknown t ht)).1

/-- Nothing is corrected in a command of a declared intent without a target. -/
theorem correctTypos_of_known (h : lowercase c.intent ∈ v.intents) (htarget : c.target = "") :
    correctTypos v c = none := by
  have htargets : targetMatches? v c = none := by
    rw [targetMatches?, if_neg]
    simp [Command.hasTarget, htarget]
  rw [correctTypos, intentMatches?_of_mem h, htargets]

/-- A word that is none of some entries differs from all of them. -/
theorem editDistance_pos_of_not_mem {entries : List String} (hentries : ∀ e ∈ entries, IsEntry e)
    {word : String} (h : lowercase word ∉ entries) {entry : String} (hentry : entry ∈ entries) :
    0 < editDistance word entry := by
  rw [Nat.pos_iff_ne_zero, ne_eq, editDistance_eq_zero_iff, (hentries entry hentry).2]
  intro heq
  rw [heq] at h
  exact h hentry

/-- A correction applies if the intent is misspelled, for a command that is not grammatical. -/
theorem correctTypos_isSome_iff (hv : v.Consistent) (h : v.validateCommand c ≠ .ok ()) :
    (correctTypos v c).isSome = true ↔ v.IntentMisspelled c := by
  by_cases hknown : lowercase c.intent ∈ v.intents
  · have htarget : c.target = "" := hv.target_eq_empty hknown h
    rw [correctTypos_of_known hknown htarget, IntentMisspelled]
    simp [hknown]
  rw [correctTypos_isSome_of_unknown hv hknown, IntentMisspelled]
  have hpos : ∀ word ∈ v.intents, 0 < editDistance c.intent word :=
    fun word hword => editDistance_pos_of_not_mem hv.intent_entry hknown hword
  constructor
  · intro hsome
    obtain ⟨m, hm, hneeds⟩ := hsome
    obtain ⟨hne, hdict, ⟨hm0, hm2, hleast⟩, -⟩ := mem_nearestEntries.mp hm
    refine ⟨hne, hknown, ⟨m.entry, hdict, hm0, hm2⟩, ?_⟩
    rcases hneeds with htarget | hnot
    · exact Or.inl htarget
    · exact Or.inr ⟨m.entry, hdict, fun other hother => hleast other hother (hpos other hother),
        hnot⟩
  · intro hmisspelled
    obtain ⟨hne, -, ⟨word, hword, hword1, hword2⟩, hneeds⟩ := hmisspelled
    rcases hneeds with htarget | ⟨least, hleast, hmin, hnot⟩
    · have hsome : nearestEntries c.intent v.intents maxEdits ≠ [] :=
        (nearestEntries_ne_nil_iff hne).mpr ⟨word, hword, hword1, hword2⟩
      obtain ⟨m, hm⟩ := List.exists_mem_of_ne_nil _ hsome
      exact ⟨m, hm, Or.inl htarget⟩
    · refine ⟨measured c.intent least, mem_nearestEntries.mpr ⟨hne, hleast, ?_, rfl⟩, Or.inr hnot⟩
      refine ⟨hpos least hleast, Nat.le_trans (hmin word hword) hword2, ?_⟩
      exact fun other hother _ => hmin other hother

end Strategy

/-! ## A chain of strategies -/

@[simp] theorem RepairResult.finding_ofProposal (c : Command) (s : Strategy) (p : Proposal) :
    (RepairResult.ofProposal c s p).finding = some (.strategy s) := by
  cases p <;> rfl

@[simp] theorem RepairResult.finding_unrepaired (c : Command) :
    (RepairResult.unrepaired c).finding = none := rfl

/-- A strategy that does not apply is passed over, and one that does ends the search. -/
theorem tryStrategies_cons_of_none {v : Vocabulary} {c : Command} {s : Strategy}
    (h : s.attempt v c = none) (rest : List Strategy) :
    tryStrategies v c (s :: rest) = tryStrategies v c rest := by
  rw [tryStrategies, h]

theorem tryStrategies_cons_of_some {v : Vocabulary} {c : Command} {s : Strategy} {p : Proposal}
    (h : s.attempt v c = some p) (rest : List Strategy) :
    tryStrategies v c (s :: rest) = .ofProposal c s p := by
  rw [tryStrategies, h]

/-- Whatever comes after it in the chain, the first strategy that applies decides. -/
theorem tryStrategies_of_first {v : Vocabulary} {c : Command} {before after : List Strategy}
    {s : Strategy} {p : Proposal} (hbefore : ∀ t ∈ before, t.attempt v c = none)
    (hs : s.attempt v c = some p) :
    tryStrategies v c (before ++ s :: after) = .ofProposal c s p := by
  induction before with
  | nil => exact tryStrategies_cons_of_some hs after
  | cons t before ih =>
      obtain ⟨ht, hrest⟩ := List.forall_mem_cons.mp hbefore
      rw [List.cons_append, tryStrategies_cons_of_none ht]
      exact ih hrest

/-- **The first strategy that applies decides**: either none does and the command stays
unrepaired, or the result is what the first one proposes. -/
theorem tryStrategies_cases (v : Vocabulary) (c : Command) (strategies : List Strategy) :
    ((∀ s ∈ strategies, s.attempt v c = none) ∧
        tryStrategies v c strategies = .unrepaired c) ∨
      ∃ before s after p, strategies = before ++ s :: after ∧
        (∀ t ∈ before, t.attempt v c = none) ∧ s.attempt v c = some p ∧
        tryStrategies v c strategies = .ofProposal c s p := by
  induction strategies with
  | nil => exact Or.inl ⟨by simp, rfl⟩
  | cons s rest ih =>
      cases hs : s.attempt v c with
      | some p =>
          exact Or.inr ⟨[], s, rest, p, rfl, by simp, hs, tryStrategies_cons_of_some hs rest⟩
      | none =>
          rw [tryStrategies_cons_of_none hs]
          rcases ih with ⟨hnone, heq⟩ | ⟨before, t, after, p, rfl, hnone, ht, heq⟩
          · left
            refine ⟨?_, heq⟩
            intro t ht
            rcases List.mem_cons.mp ht with rfl | ht
            · exact hs
            · exact hnone t ht
          · right
            refine ⟨s :: before, t, after, p, rfl, ?_, ht, heq⟩
            intro u hu
            rcases List.mem_cons.mp hu with rfl | hu
            · exact hs
            · exact hnone u hu

/-! ## Results and decisions of a chain -/

/-- The result for a command that there is something to do about. -/
def RepairResult.ofChain (v : Vocabulary) (strategies : List Strategy) (c : Command) :
    RepairResult :=
  if c.isValid then .ofValid c else tryStrategies v c strategies

/-- A repair of a command that is not blank comes to the result of the chain. -/
theorem repair_eq_ok {v : Vocabulary} {strategies : List Strategy} {c : Command}
    (hblank : c.isBlank = false) : repair v strategies c = .ok (.ofChain v strategies c) := by
  unfold repair RepairResult.ofChain
  rw [hblank]
  cases c.isValid <;> rfl

/-- A marked command is not touched, and every other goes through the strategies. -/
theorem RepairResult.ofChain_of_valid {c : Command} (hmark : c.isValid = true) (v : Vocabulary)
    (strategies : List Strategy) : ofChain v strategies c = .ofValid c := if_pos hmark

theorem RepairResult.ofChain_of_not_valid {c : Command} (hmark : c.isValid = false)
    (v : Vocabulary) (strategies : List Strategy) :
    ofChain v strategies c = tryStrategies v c strategies := by
  simp [ofChain, hmark]

/-- A result together with what the policy makes of it. -/
def RepairResult.decided (r : RepairResult) : RepairDecision := ⟨r, r.action⟩

@[simp] theorem RepairResult.result_decided (r : RepairResult) : r.decided.result = r := rfl

@[simp] theorem RepairResult.action_decided (r : RepairResult) : r.decided.action = r.action := rfl

/-- There is a decision on a command that is not blank. -/
theorem repairWithDecision_eq_ok {v : Vocabulary} {strategies : List Strategy} {c : Command}
    (hblank : c.isBlank = false) :
    repairWithDecision v strategies c = .ok (RepairResult.ofChain v strategies c).decided := by
  rw [repairWithDecision, repair_eq_ok hblank]
  rfl

/-- There is no decision on a blank command. -/
theorem repairWithDecision_of_blank {v : Vocabulary} {strategies : List Strategy} {c : Command}
    (hblank : c.isBlank = true) :
    repairWithDecision v strategies c = .error .undefinedCommand := by
  rw [repairWithDecision, repair, if_pos hblank]
  rfl

/-- There is a decision on every command that is not blank, and it is that of the chain. -/
theorem repairWithDecision_eq_ok_iff {v : Vocabulary} {strategies : List Strategy} {c : Command}
    {d : RepairDecision} :
    repairWithDecision v strategies c = .ok d ↔
      c.isBlank = false ∧ (RepairResult.ofChain v strategies c).decided = d := by
  cases hblank : c.isBlank with
  | true =>
      rw [repairWithDecision_of_blank hblank]
      simp
  | false =>
      rw [repairWithDecision_eq_ok hblank]
      simp

end Emend
