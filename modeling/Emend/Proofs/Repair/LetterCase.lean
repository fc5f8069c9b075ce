import Emend.Proofs.Repair.TwoRuns
import Mathlib.Data.List.Forall2

/-!
# Repair without regard to case

A word is looked up by its lower case, measured by its lower case, and otherwise only asked
whether it is empty.  The same command typed in another case therefore runs into the same slips.
What is proposed for it need not be the same command, since some strategies copy a word as it was
typed and others put the entry of the vocabulary in its place, and the explanation quotes the
words.  But it is the same command up to case again, and `SameButCase` is this relation, of
commands, of proposals and of results.

Each function of the repair takes related arguments to related values: the look-ups and the
distances to equal ones, `Strategy.attempt_congr` for the strategies, and `tryStrategies_congr` for
a run of them.  `repair_ignores_case` adds the commands that are blank or known to be grammatical,
and what is done with the result.
-/

namespace Emend

/-! ## Commands -/

/-- Two commands that differ at most in the case of their intents and targets. -/
structure Command.SameButCase (c d : Command) : Prop where
  raw : c.raw = d.raw
  intent : lowercase c.intent = lowercase d.intent
  target : lowercase c.target = lowercase d.target
  modifiers : c.modifiers = d.modifiers
  isValid : c.isValid = d.isValid
  metadata : c.metadata = d.metadata

namespace Command.SameButCase

variable {c d : Command} (h : c.SameButCase d)
include h

/-- Both commands have a target or neither does. -/
theorem hasTarget : c.hasTarget = d.hasTarget := by
  simp only [Command.hasTarget, ne_eq, eq_empty_congr h.target]

theorem isBlank : c.isBlank = d.isBlank := by
  simp only [Command.isBlank, h.raw, h.modifiers, eq_empty_congr h.intent, eq_empty_congr h.target]

/-- Words that differ in case only may be put in the place of theirs. -/
theorem restate {intent intent' target target' : String}
    (hintent : lowercase intent = lowercase intent')
    (htarget : lowercase target = lowercase target') :
    (c.restate intent target).SameButCase (d.restate intent' target') :=
  ⟨h.raw, hintent, htarget, h.modifiers, rfl, h.metadata⟩

/-- Other modifiers may be put in the place of both. -/
theorem restateModifiers (modifiers : Dict) :
    (c.restateModifiers modifiers).SameButCase (d.restateModifiers modifiers) :=
  ⟨h.raw, h.intent, h.target, rfl, rfl, h.metadata⟩

/-- Both commands may be marked. -/
theorem withValidity (isValid : Bool) :
    (c.withValidity isValid).SameButCase (d.withValidity isValid) :=
  ⟨h.raw, h.intent, h.target, h.modifiers, rfl, h.metadata⟩

/-- Only success is compared, since the errors quote the intent. -/
theorem validateCommand (v : Vocabulary) :
    v.validateCommand c = .ok () ↔ v.validateCommand d = .ok () := by
  simp only [Vocabulary.validateCommand_eq_ok_iff, h.intent, ne_eq, eq_empty_congr h.intent,
    eq_empty_congr h.target]

/-- The grammar does not look at case, so both commands are approved or neither is. -/
theorem approve (v : Vocabulary) :
    Option.Rel Command.SameButCase (v.approve c) (v.approve d) := by
  by_cases hvalid : v.validateCommand d = .ok ()
  · rw [Vocabulary.approve_eq_some_iff.mpr ⟨hvalid, rfl⟩,
      Vocabulary.approve_eq_some_iff.mpr ⟨(h.validateCommand v).mpr hvalid, rfl⟩]
    exact .some (h.withValidity true)
  · have hd : v.approve d = none := by
      simpa using mt Vocabulary.approve_isSome_iff.mp hvalid
    have hc : v.approve c = none := by
      simpa using mt Vocabulary.approve_isSome_iff.mp (mt (h.validateCommand v).mp hvalid)
    rw [hc, hd]
    exact .none

end Command.SameButCase

/-! ## Proposals -/

/-- Two proposals of the same kind and confidence whose commands differ at most in case.  Nothing
is asked of the explanations, in which the words stand as they were typed. -/
inductive Proposal.SameButCase : Proposal → Proposal → Prop
  | single {c d : Command} {confidence : Binary64} {explanation explanation' : String}
      (h : c.SameButCase d) :
      SameButCase (.single c confidence explanation) (.single d confidence explanation')
  | options {cs ds : List Command} {confidence : Binary64} {explanation explanation' : String}
      (h : List.Forall₂ Command.SameButCase cs ds) :
      SameButCase (.options cs confidence explanation) (.options ds confidence explanation')

namespace Strategy

variable {v : Vocabulary} {c d : Command}

/-- Approved commands are proposed alike, whatever is said about them. -/
theorem approved_congr (h : c.SameButCase d) (confidence : Binary64)
    (explanation explanation' : String) :
    Option.Rel Proposal.SameButCase
      ((v.approve c).map fun repaired => .single repaired confidence explanation)
      ((v.approve d).map fun repaired => .single repaired confidence explanation') :=
  rel_map (h.approve v) fun _ _ hsame => .single hsame

/-- Normalization does not depend on case. -/
theorem normalizeModifiers_congr (h : c.SameButCase d) :
    Option.Rel Proposal.SameButCase (normalizeModifiers v c) (normalizeModifiers v d) := by
  unfold normalizeModifiers
  rw [h.modifiers]
  cases Modifiers.irregular d.modifiers with
  | nil => exact .none
  | cons => exact approved_congr (h.restateModifiers _) _ _ _

theorem swapArguments_congr (h : c.SameButCase d) :
    Option.Rel Proposal.SameButCase (swapArguments v c) (swapArguments v d) := by
  unfold swapArguments
  apply rel_guarded ?_ (approved_congr (h.restate ?_ h.intent) _ _ _)
  · rw [ne_eq, eq_empty_congr h.intent, h.hasTarget, v.isIntent_congr h.target]
  · rw [h.target]

theorem promoteTarget_congr (h : c.SameButCase d) :
    Option.Rel Proposal.SameButCase (promoteTarget v c) (promoteTarget v d) := by
  unfold promoteTarget
  apply rel_guarded ?_ (approved_congr (h.restate ?_ rfl) _ _ _)
  · rw [eq_empty_congr h.intent, v.isIntent_congr h.target]
  · rw [h.target]

theorem assumeDefaultIntent_congr (h : c.SameButCase d) :
    Option.Rel Proposal.SameButCase (assumeDefaultIntent v c) (assumeDefaultIntent v d) := by
  unfold assumeDefaultIntent
  apply rel_guarded ?_ (approved_congr (h.restate rfl h.intent) _ _ _)
  rw [ne_eq, eq_empty_congr h.intent, h.hasTarget, v.isTarget_congr h.intent]

/-- Argument order does not depend on case. -/
theorem orderArguments_congr (h : c.SameButCase d) :
    Option.Rel Proposal.SameButCase (orderArguments v c) (orderArguments v d) :=
  rel_orElse (swapArguments_congr h)
    (rel_orElse (promoteTarget_congr h) (assumeDefaultIntent_congr h))

/-- A synonym is found in every case. -/
theorem expandSynonym_congr (h : c.SameButCase d) :
    Option.Rel Proposal.SameButCase (expandSynonym v c) (expandSynonym v d) := by
  unfold expandSynonym
  rw [v.synonym?_congr h.intent]
  cases v.synonym? d.intent with
  | none => exact .none
  | some canonical => exact approved_congr (h.restate rfl h.target) _ _ _

/-- The approved ones among several readings, as options. -/
theorem options_congr {cs ds : List Command} {confidence : Binary64}
    {explanation explanation' : String} :
    List.Forall₂ Command.SameButCase cs ds → Option.Rel Proposal.SameButCase
      (match cs with
        | [] => none
        | candidates => some (.options candidates confidence explanation))
      (match ds with
        | [] => none
        | candidates => some (.options candidates confidence explanation')) := by
  intro h
  cases h with
  | nil => exact .none
  | cons hfirst hrest => exact .some (.options (.cons hfirst hrest))

/-- Readings that differ in case are proposed alike. -/
theorem propose_congr {readings readings' : List Command}
    (h : List.Forall₂ Command.SameButCase readings readings')
    (level optionsLevel : Binary64) (e e' optionsE optionsE' : String) :
    Option.Rel Proposal.SameButCase (propose v readings level e optionsLevel optionsE)
      (propose v readings' level e' optionsLevel optionsE') := by
  -- Stated before the readings are told apart, since several of them are approved as one list.
  have happroved : List.Forall₂ Command.SameButCase (readings.filterMap v.approve)
      (readings'.filterMap v.approve) :=
    List.rel_filterMap (fun _ _ hsame => hsame.approve v) h
  cases h with
  | nil => exact .none
  | cons hfirst hrest =>
      cases hrest with
      | nil => exact approved_congr hfirst _ _ _
      | cons => exact options_congr happroved

/-- The matches of an intent are the same in every case. -/
theorem intentMatches?_congr (h : c.SameButCase d) : intentMatches? v c = intentMatches? v d := by
  rw [intentMatches?, v.isIntent_congr h.intent, nearestEntries_congr h.intent]
  rfl

theorem targetMatches?_congr (h : c.SameButCase d) : targetMatches? v c = targetMatches? v d := by
  rw [targetMatches?, h.hasTarget, v.isTarget_congr h.target, nearestEntries_congr h.target]
  rfl

/-- The correction of one word depends on the matches only. -/
theorem correctWord_congr {restate restate' : String → Command}
    (h : ∀ entry, (restate entry).SameButCase (restate' entry)) (token token' : String)
    (found : List NearEntry) :
    Option.Rel Proposal.SameButCase (correctWord v token found restate)
      (correctWord v token' found restate') := by
  apply propose_congr
  rw [List.forall₂_map_left_iff, List.forall₂_map_right_iff, List.forall₂_same]
  exact fun m _ => h m.entry

/-- The correction of both words depends on the matches only. -/
theorem correctPair_congr (h : c.SameButCase d) (intents targets : List NearEntry) :
    Option.Rel Proposal.SameButCase (correctPair v c intents targets)
      (correctPair v d intents targets) := by
  apply propose_congr
  refine List.rel_flatMap (R := Eq) (List.forall₂_refl intents) ?_
  rintro i _ rfl
  rw [List.forall₂_map_left_iff, List.forall₂_map_right_iff, List.forall₂_same]
  exact fun t _ => h.restate rfl rfl

/-- Corrections do not depend on case. -/
theorem correctTypos_congr (h : c.SameButCase d) :
    Option.Rel Proposal.SameButCase (correctTypos v c) (correctTypos v d) := by
  unfold correctTypos
  rw [intentMatches?_congr h, targetMatches?_congr h]
  cases intentMatches? v d with
  | none =>
      cases targetMatches? v d with
      | none => exact .none
      | some targets => exact correctWord_congr (fun _ => h.restate h.intent rfl) _ _ targets
  | some intents =>
      cases targetMatches? v d with
      | none => exact correctWord_congr (fun _ => h.restate rfl h.target) _ _ intents
      | some targets => exact correctPair_congr h intents targets

/-- A strategy applies whatever the case, and proposes the same up to case. -/
theorem attempt_congr (h : c.SameButCase d) (s : Strategy) :
    Option.Rel Proposal.SameButCase (s.attempt v c) (s.attempt v d) := by
  cases s with
  | flagNormalization => exact normalizeModifiers_congr h
  | argumentOrder => exact orderArguments_congr h
  | synonymExpansion => exact expandSynonym_congr h
  | typoCorrection => exact correctTypos_congr h

end Strategy

/-! ## Results -/

/-- Two results found in the same way and with the same confidence, whose commands differ at most
in case. -/
structure RepairResult.SameButCase (x y : RepairResult) : Prop where
  submitted : x.submitted.SameButCase y.submitted
  repaired : Option.Rel Command.SameButCase x.repaired y.repaired
  confidence : x.confidence = y.confidence
  candidates : List.Forall₂ Command.SameButCase x.candidates y.candidates
  finding : x.finding = y.finding

namespace RepairResult.SameButCase

/-- Results are related up to case if the commands and the proposals are. -/
theorem follows {c d : Command} (h : c.SameButCase d) :
    Follows Proposal.SameButCase RepairResult.SameButCase c d where
  ofValid := ⟨h, .some h, rfl, .nil, rfl⟩
  ofProposal := by
    intro s p q hpq
    cases hpq with
    | single hsame => exact ⟨h, .some hsame, rfl, .nil, rfl⟩
    | options hsame => exact ⟨h, .none, rfl, hsame, rfl⟩
  unrepaired := ⟨h, .none, rfl, .nil, rfl⟩

/-- Commands that are known to be grammatical are left as they are, in their own case. -/
theorem ofValid {c d : Command} (h : c.SameButCase d) :
    (RepairResult.ofValid c).SameButCase (.ofValid d) :=
  (follows h).ofValid

/-- Case has no part in what is done. -/
theorem action {x y : RepairResult} (h : x.SameButCase y) : x.action = y.action :=
  RepairResult.action_congr (isSome_eq_of_rel h.repaired) h.confidence h.candidates.length_eq

end RepairResult.SameButCase

/-- Strategies tried in turn come to the same up to case. -/
theorem tryStrategies_congr {v : Vocabulary} {c d : Command} (h : c.SameButCase d)
    (strategies : List Strategy) :
    (tryStrategies v c strategies).SameButCase (tryStrategies v d strategies) :=
  tryStrategies_rel (RepairResult.SameButCase.follows h) (fun s => s.attempt_congr h) strategies

/-- **Repair does not see the case of letters.**  Let two commands agree but for the case of their
intents and targets.  Under any vocabulary and any chain of strategies, either there is nothing to
repair in both, or both come to a result: of the same strategy, with the same confidence, with the
same done about it, and with repaired commands and candidates that correspond and agree but for
the case of their intents and targets. -/
theorem repair_ignores_case {v : Vocabulary} {strategies : List Strategy} {c d : Command}
    (h : c.SameButCase d) :
    (repair v strategies c = .error .undefinedCommand ∧
        repair v strategies d = .error .undefinedCommand) ∨
      ∃ x y, repair v strategies c = .ok x ∧ repair v strategies d = .ok y ∧
        x.SameButCase y ∧ x.action = y.action := by
  cases hblank : d.isBlank with
  | true =>
      left
      exact ⟨if_pos (h.isBlank.trans hblank), if_pos hblank⟩
  | false =>
      right
      refine ⟨_, _, repair_eq_ok (h.isBlank.trans hblank), repair_eq_ok hblank, ?_⟩
      have hsame : (RepairResult.ofChain v strategies c).SameButCase
          (.ofChain v strategies d) := by
        unfold RepairResult.ofChain
        rw [h.isValid]
        cases d.isValid with
        | true => exact .ofValid h
        | false => exact tryStrategies_congr h strategies
      exact ⟨hsame, hsame.action⟩

/-- Swapped arguments in capitals and in lower case: the intent is the entry of the vocabulary in
both, and the target stays as it was typed. -/
theorem repair_ignores_case_docs :
    let c : Command := { raw := "DOCS Analyze", intent := "DOCS", target := "Analyze" }
    let d : Command := { raw := "DOCS Analyze", intent := "docs", target := "analyze" }
    c.SameButCase d ∧
      ((repair .builtIn Strategy.all c).toOption.bind (·.repaired)).map
          (fun r => (r.intent, r.target)) = some ("analyze", "DOCS") ∧
      ((repair .builtIn Strategy.all d).toOption.bind (·.repaired)).map
          (fun r => (r.intent, r.target)) = some ("analyze", "docs") ∧
      ((repair .builtIn Strategy.all c = .error .undefinedCommand ∧
          repair .builtIn Strategy.all d = .error .undefinedCommand) ∨
        ∃ x y, repair .builtIn Strategy.all c = .ok x ∧ repair .builtIn Strategy.all d = .ok y ∧
          x.SameButCase y ∧ x.action = y.action) := by
  intro c d
  have hsame : c.SameButCase d := ⟨rfl, by decide +kernel, by decide +kernel, rfl, rfl, rfl⟩
  exact ⟨hsame, by decide +kernel, by decide +kernel, repair_ignores_case hsame⟩

end Emend
