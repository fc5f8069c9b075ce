import Emend.Proofs.Repair.Decision

/-!
# The decision table of the standard chain

For a command that is not grammatical, the standard chain comes down to three tests on its
intent and target, taken in order: whether the arguments are misplaced, whether the intent is a
synonym, whether it is misspelled.  Modifiers are never at fault, so the first strategy of the
chain always steps aside.  `repair_decision_table` states the table over all commands and all
checked vocabularies; no line of it can be reached by a command of another, and what is in none
of them is handed on without any proposal.  A command that is in a line of the table comes back
with something, a command or options, and its text is not passed on.
-/

namespace Emend

/-- A command with something to work on that is not known to be grammatical goes through
the strategies. -/
theorem repairWithDecision_eq {v : Vocabulary} {strategies : List Strategy} {c : Command}
    (hblank : c.isBlank = false) (hvalid : c.isValid = false) :
    repairWithDecision v strategies c =
      .ok ⟨tryStrategies v c strategies, (tryStrategies v c strategies).action⟩ := by
  rw [repairWithDecision_eq_ok hblank, RepairResult.ofChain_of_not_valid hvalid]
  rfl

/-- The lines of the table, each with the tests that lead to it. -/
theorem standard_chain_cases {v : Vocabulary} {c : Command} (hv : v.Consistent)
    (h : v.validateCommand c ≠ .ok ()) :
    (v.ArgumentsMisplaced c ∧
      ∃ p, tryStrategies v c Strategy.all = .ofProposal c .argumentOrder p) ∨
    (¬ v.ArgumentsMisplaced c ∧ v.IntentIsSynonym c ∧
      ∃ p, tryStrategies v c Strategy.all = .ofProposal c .synonymExpansion p) ∨
    (¬ v.ArgumentsMisplaced c ∧ ¬ v.IntentIsSynonym c ∧ v.IntentMisspelled c ∧
      ∃ p, tryStrategies v c Strategy.all = .ofProposal c .typoCorrection p) ∨
    (¬ v.ArgumentsMisplaced c ∧ ¬ v.IntentIsSynonym c ∧ ¬ v.IntentMisspelled c ∧
      tryStrategies v c Strategy.all = .unrepaired c) := by
  have hflags : Strategy.flagNormalization.attempt v c = none :=
    Strategy.normalizeModifiers_eq_none h
  have horder : (Strategy.argumentOrder.attempt v c).isSome = true ↔ v.ArgumentsMisplaced c :=
    Strategy.orderArguments_isSome_iff hv
  have hsynonym : (Strategy.synonymExpansion.attempt v c).isSome = true ↔ v.IntentIsSynonym c :=
    Strategy.expandSynonym_isSome_iff hv
  have htypo : (Strategy.typoCorrection.attempt v c).isSome = true ↔ v.IntentMisspelled c :=
    Strategy.correctTypos_isSome_iff hv h
  rw [← horder, ← hsynonym, ← htypo, Strategy.all, tryStrategies_cons_of_none hflags]
  cases ho : Strategy.argumentOrder.attempt v c with
  | some p => exact Or.inl ⟨rfl, p, tryStrategies_cons_of_some ho _⟩
  | none =>
      rw [tryStrategies_cons_of_none ho]
      cases hs : Strategy.synonymExpansion.attempt v c with
      | some p => exact Or.inr (Or.inl ⟨by simp, rfl, p, tryStrategies_cons_of_some hs _⟩)
      | none =>
          rw [tryStrategies_cons_of_none hs]
          cases ht : Strategy.typoCorrection.attempt v c with
          | some p =>
              exact Or.inr (Or.inr (Or.inl
                ⟨by simp, by simp, rfl, p, tryStrategies_cons_of_some ht _⟩))
          | none =>
              rw [tryStrategies_cons_of_none ht]
              exact Or.inr (Or.inr (Or.inr ⟨by simp, by simp, by simp, rfl⟩))

/-- The chain comes to a correction if nothing before it applies. -/
theorem standard_chain_of_typo {v : Vocabulary} {c : Command} {p : Proposal} (hv : v.Consistent)
    (h : v.validateCommand c ≠ .ok ()) (horder : ¬ v.ArgumentsMisplaced c)
    (hsynonym : ¬ v.IntentIsSynonym c) (hp : Strategy.correctTypos v c = some p) :
    tryStrategies v c Strategy.all = .ofProposal c .typoCorrection p := by
  have hflags : Strategy.flagNormalization.attempt v c = none :=
    Strategy.normalizeModifiers_eq_none h
  have horder : Strategy.argumentOrder.attempt v c = none := by
    rw [← Option.not_isSome_iff_eq_none]
    exact fun hsome => horder ((Strategy.orderArguments_isSome_iff hv).mp hsome)
  have hsynonym : Strategy.synonymExpansion.attempt v c = none := by
    rw [← Option.not_isSome_iff_eq_none]
    exact fun hsome => hsynonym ((Strategy.expandSynonym_isSome_iff hv).mp hsome)
  have htypo : Strategy.typoCorrection.attempt v c = some p := hp
  rw [Strategy.all, tryStrategies_cons_of_none hflags, tryStrategies_cons_of_none horder,
    tryStrategies_cons_of_none hsynonym, tryStrategies_cons_of_some htypo]

/-- The lines of the table as they show in a decision: which strategy applies to the command
on its own, and which of them the result comes from.  Nothing is held, and the text is passed on,
where the command is in no line and only there. -/
structure FollowsTable (v : Vocabulary) (c : Command) (d : RepairDecision) : Prop where
  order_applies : (Strategy.argumentOrder.attempt v c).isSome = true ↔ v.ArgumentsMisplaced c
  synonym_applies : (Strategy.synonymExpansion.attempt v c).isSome = true ↔ v.IntentIsSynonym c
  typo_applies : (Strategy.typoCorrection.attempt v c).isSome = true ↔ v.IntentMisspelled c
  order : d.result.finding = some (.strategy .argumentOrder) ↔ v.ArgumentsMisplaced c
  synonym : d.result.finding = some (.strategy .synonymExpansion) ↔
    v.IntentIsSynonym c ∧ ¬ v.ArgumentsMisplaced c
  typo : d.result.finding = some (.strategy .typoCorrection) ↔
    v.IntentMisspelled c ∧ ¬ v.ArgumentsMisplaced c ∧ ¬ v.IntentIsSynonym c
  unrepaired : d.IsUnrepaired ↔
    ¬ v.ArgumentsMisplaced c ∧ ¬ v.IntentIsSynonym c ∧ ¬ v.IntentMisspelled c
  nothing_held : d.result.repaired = none ∧ d.result.candidates = [] ↔
    ¬ v.ArgumentsMisplaced c ∧ ¬ v.IntentIsSynonym c ∧ ¬ v.IntentMisspelled c
  passed_on : d.action = .failToBackend ↔
    ¬ v.ArgumentsMisplaced c ∧ ¬ v.IntentIsSynonym c ∧ ¬ v.IntentMisspelled c

/-- **The decision table.**  Under a checked vocabulary, a command that is not grammatical is
repaired by argument order, by a synonym or by a correction exactly as the three tests say,
the earlier one taking precedence, and it is given up exactly if all three fail. -/
theorem repair_decision_table {v n : Vocabulary} {c : Command} (hv : v.checked = .ok n)
    (hblank : c.isBlank = false) (hmark : c.isValid = false)
    (hinvalid : n.validateCommand c ≠ .ok ()) :
    ∃ d, repairWithDecision n Strategy.all c = .ok d ∧ FollowsTable n c d := by
  have hn := Vocabulary.checked_consistent hv
  refine ⟨_, repairWithDecision_eq hblank hmark, ?_⟩
  have hlines := standard_chain_cases hn hinvalid
  obtain ⟨a, hstate, -⟩ := (agrees_tryStrategies n Strategy.all hmark).state
  have hunrepaired : (tryStrategies n c Strategy.all).decided.IsUnrepaired ↔
      ¬ n.ArgumentsMisplaced c ∧ ¬ n.IntentIsSynonym c ∧ ¬ n.IntentMisspelled c := by
    rcases hlines with ⟨ho, p, heq⟩ | ⟨-, hs, p, heq⟩ | ⟨-, -, hy, p, heq⟩ | ⟨ho, hs, hy, heq⟩
    · simp [heq, ho, not_isUnrepaired_ofProposal]
    · simp [heq, hs, not_isUnrepaired_ofProposal]
    · simp [heq, hy, not_isUnrepaired_ofProposal]
    · rw [heq]
      exact iff_of_true (isUnrepaired_unrepaired c) ⟨ho, hs, hy⟩
  refine
    { order_applies := Strategy.orderArguments_isSome_iff hn
      synonym_applies := Strategy.expandSynonym_isSome_iff hn
      typo_applies := Strategy.correctTypos_isSome_iff hn hinvalid
      order := ?_
      synonym := ?_
      typo := ?_
      unrepaired := hunrepaired
      nothing_held := hstate.isUnrepaired_iff_holdsNothing.symm.trans hunrepaired
      passed_on := hstate.isUnrepaired_iff_action.symm.trans hunrepaired }
  -- In each line of the table the result is known, and with it where it comes from.
  all_goals
    rcases hlines with ⟨ho, p, heq⟩ | ⟨ho, hs, p, heq⟩ | ⟨ho, hs, hy, p, heq⟩ | ⟨ho, hs, hy, heq⟩
    · simp [heq, ho]
    · simp [heq, ho, hs]
    · simp [heq, ho, hs, hy]
    · simp [heq, ho, hs, hy]

/-- The table at a misspelled intent of the built-in vocabulary. -/
theorem repair_decision_table_stauts :
    let c := Command.ofParts "mender stauts docs" "stauts" "docs" ∅
    Vocabulary.builtIn.checked = .ok Vocabulary.builtIn ∧ c.isBlank = false ∧
      c.isValid = false ∧ Vocabulary.builtIn.validateCommand c ≠ .ok () ∧
      ∃ d, repairWithDecision Vocabulary.builtIn Strategy.all c = .ok d ∧
        FollowsTable Vocabulary.builtIn c d := by
  have hblank : (Command.ofParts "mender stauts docs" "stauts" "docs" ∅).isBlank = false := by
    decide +kernel
  have hinvalid : Vocabulary.builtIn.validateCommand
      (Command.ofParts "mender stauts docs" "stauts" "docs" ∅) ≠ .ok () := by
    decide +kernel
  exact ⟨Vocabulary.builtIn_checked, hblank, rfl, hinvalid,
    repair_decision_table Vocabulary.builtIn_checked hblank rfl hinvalid⟩

end Emend
