import Emend.Proofs.Repair.Misspelling
import Emend.Proofs.Repair.Soundness

/-!
# A correction leaves nothing to correct

A command is well spelled if its intent is declared, and its target is missing, known, or close to no
known one.  This is exactly when the corrections have nothing to do (`isWellSpelled_iff`), and every
command they propose is of this kind.  Each of its words was either put there from the
vocabulary or kept because there was nothing to correct about it, and what is kept is still
not close to anything.  `corrections_final` concludes that no correction is corrected again.
-/

namespace Emend

namespace Vocabulary

/-- A command whose words are no misspellings, as far as the vocabulary can tell. -/
structure IsWellSpelled (v : Vocabulary) (c : Command) : Prop where
  intent : v.isIntent c.intent = true
  target : c.target = "" ∨ v.isTarget c.target = true ∨
    ∀ word ∈ v.targets, 2 < editDistance c.target word

variable {v : Vocabulary} {c : Command}

/-- The intent of a well-spelled command is not corrected. -/
theorem IsWellSpelled.not_correctsIntent (h : v.IsWellSpelled c) : ¬ v.CorrectsIntent c :=
  not_not.mpr (isIntent_iff.mp h.intent)

theorem IsWellSpelled.not_correctsTarget (h : v.IsWellSpelled c) : ¬ v.CorrectsTarget c := by
  intro hcorrects
  obtain ⟨hne, hunknown, word, hword, -, hclose⟩ := hcorrects
  rcases h.target with hempty | hknown | hfar
  · exact hne hempty
  · exact hunknown (isTarget_iff.mp hknown)
  · have hlt := hfar word hword
    omega

/-- In a checked vocabulary, a target that is not known is at some distance from all that are. -/
theorem isWellSpelled_iff (hv : v.Consistent) :
    v.IsWellSpelled c ↔ ¬ v.CorrectsIntent c ∧ ¬ v.CorrectsTarget c := by
  constructor
  · intro h
    exact ⟨h.not_correctsIntent, h.not_correctsTarget⟩
  · intro h
    obtain ⟨hintent, htarget⟩ := h
    refine ⟨isIntent_iff.mpr (not_not.mp hintent), ?_⟩
    by_cases hempty : c.target = ""
    · exact Or.inl hempty
    by_cases hknown : lowercase c.target ∈ v.targets
    · exact Or.inr (Or.inl (isTarget_iff.mpr hknown))
    refine Or.inr (Or.inr ?_)
    intro word hword
    by_contra hclose
    have hpos := Strategy.editDistance_pos_of_not_mem hv.target_entry hknown hword
    exact htarget ⟨hempty, hknown, word, hword, by omega, by omega⟩

end Vocabulary

namespace Strategy

variable {v : Vocabulary} {c d : Command} {p : Proposal}

/-- Nothing is proposed for a well-spelled command, whatever the vocabulary. -/
theorem correctTypos_of_isWellSpelled (h : v.IsWellSpelled c) : correctTypos v c = none := by
  rw [← Option.not_isSome_iff_eq_none, correctTypos_isSome_iff_readings]
  intro hcorrects
  rcases hcorrects.1 with hintent | htarget
  · exact h.not_correctsIntent hintent
  · exact h.not_correctsTarget htarget

/-- A reading of the target is known, or it is the target and was not to be corrected. -/
theorem not_correctsTarget_of_mem_readings (hv : v.Consistent)
    (htarget : d.target ∈ v.targetReadings c) : ¬ v.CorrectsTarget d := by
  intro hcorrects
  rcases mem_or_eq_of_mem_readingsOf htarget with ⟨-, hmem⟩ | ⟨hkept, heq⟩
  · have hlower := (hv.target_entry d.target hmem).2
    exact hcorrects.2.1 (by rwa [hlower])
  · rw [Vocabulary.CorrectsTarget, heq] at hcorrects
    exact hkept hcorrects

/-- **What a correction proposes is well spelled.** -/
theorem isWellSpelled_of_mem_commands (hv : v.Consistent) (h : correctTypos v c = some p)
    (hd : d ∈ p.commands) : v.IsWellSpelled d := by
  rw [commands_of_correctTypos h] at hd
  obtain ⟨w, hw, rfl⟩ := List.mem_map.mp hd
  obtain ⟨hreading, hvalid⟩ := List.mem_filter.mp hw
  obtain ⟨-, htarget⟩ := List.mem_product.mp hreading
  have hgrammatical := Vocabulary.validateCommand_eq_ok_iff.mp (of_decide_eq_true hvalid)
  exact (Vocabulary.isWellSpelled_iff hv).mpr
    ⟨not_not.mpr hgrammatical.2.1, not_correctsTarget_of_mem_readings hv htarget⟩

end Strategy

/-- **Corrections are final.**  Under a checked vocabulary every command that is proposed for a misspelled
one is well spelled, and it is not corrected again, not even with its mark taken away. -/
theorem corrections_final {v n : Vocabulary} (hv : v.checked = .ok n) {c : Command} {p : Proposal}
    (h : Strategy.typoCorrection.attempt n c = some p) :
    p.commands ≠ [] ∧ ∀ d ∈ p.commands, n.IsWellSpelled d ∧
      Strategy.typoCorrection.attempt n (d.withValidity false) = none := by
  have hn : n.Consistent := Vocabulary.checked_consistent hv
  refine ⟨(Strategy.attempt_proposes h).commands_ne_nil, ?_⟩
  intro d hd
  have hspelled : n.IsWellSpelled d := Strategy.isWellSpelled_of_mem_commands hn h hd
  exact ⟨hspelled, Strategy.correctTypos_of_isWellSpelled ⟨hspelled.intent, hspelled.target⟩⟩

/-- The intent can mean two things, and the target is nothing the vocabulary has a word for. -/
theorem corrections_final_plst :
    let c := Command.ofParts "mender plst login_flow" "plst" "login_flow" ∅
    Vocabulary.builtIn.checked = .ok .builtIn ∧
      ∃ p, Strategy.typoCorrection.attempt .builtIn c = some p ∧
        p.commands.map (fun d => (d.intent, d.target)) =
          [("test", "login_flow"), ("plan", "login_flow")] ∧
        ∀ d ∈ p.commands, Vocabulary.builtIn.IsWellSpelled d ∧
          Strategy.typoCorrection.attempt .builtIn (d.withValidity false) = none := by
  intro c
  have hwords : (Strategy.typoCorrection.attempt .builtIn c).map
      (fun p => p.commands.map fun d => (d.intent, d.target)) =
        some [("test", "login_flow"), ("plan", "login_flow")] := by
    decide +kernel
  obtain ⟨p, hp, hcommands⟩ := Option.map_eq_some_iff.mp hwords
  exact ⟨Vocabulary.builtIn_checked, p, hp, hcommands,
    (corrections_final Vocabulary.builtIn_checked hp).2⟩

end Emend
