import Emend.Proofs.Repair.Strategies

/-!
# Two runs of a repair

A statement about two runs compares what they come to by a relation: results up to the case of
letters, or up to the order of the candidates.  Such a relation is followed through a repair in the
same way, whatever it is.  The strategies answer with related proposals, or not at all in both
runs; then the same one is the first to apply, and the results are related as soon as those of
related proposals are (`Follows`, `tryStrategies_rel`, by induction on the chain).  What is
done with the results depends on little of them (`RepairResult.action_congr`).
-/

namespace Emend

/-! ## Related options -/

section Related

variable {α β γ δ : Type} {R : α → β → Prop} {S : γ → δ → Prop}

/-- Related values are mapped to related values. -/
theorem rel_map {x : Option α} {y : Option β} {f : α → γ} {g : β → δ} (h : Option.Rel R x y)
    (hfg : ∀ a b, R a b → S (f a) (g b)) : Option.Rel S (x.map f) (y.map g) := by
  cases h with
  | none => exact .none
  | some hab => exact .some (hfg _ _ hab)

/-- Falling back to related values keeps the relation. -/
theorem rel_orElse {x x' : Option α} {y y' : Option β} (h : Option.Rel R x y)
    (h' : Option.Rel R x' y') : Option.Rel R (x <|> x') (y <|> y') := by
  cases h with
  | none => exact h'
  | some hab => exact .some hab

/-- A test that comes out alike keeps the relation. -/
theorem rel_guarded {p q : Prop} [Decidable p] [Decidable q] {x : Option α} {y : Option β}
    (hpq : p ↔ q) (h : Option.Rel R x y) :
    Option.Rel R (if p then x else none) (if q then y else none) := by
  by_cases hq : q
  · rwa [if_pos hq, if_pos (hpq.mpr hq)]
  · rw [if_neg hq, if_neg (mt hpq.mp hq)]
    exact .none

/-- Of two related values, both are there or neither is. -/
theorem isSome_eq_of_rel {x : Option α} {y : Option β} (h : Option.Rel R x y) :
    x.isSome = y.isSome := by
  cases h <;> rfl

end Related

/-! ## Related results -/

/-- The policy sees of a result its confidence, whether there is a repaired command and whether
there are options, and no word of any command. -/
theorem RepairResult.action_congr {x y : RepairResult}
    (hrepaired : x.repaired.isSome = y.repaired.isSome) (hconfidence : x.confidence = y.confidence)
    (hlength : x.candidates.length = y.candidates.length) : x.action = y.action := by
  have hcandidates : x.hasCandidates = y.hasCandidates := by
    have hempty : x.candidates.isEmpty = y.candidates.isEmpty := by
      rw [Bool.eq_iff_iff, List.isEmpty_iff_length_eq_zero, List.isEmpty_iff_length_eq_zero,
        hlength]
    rw [RepairResult.hasCandidates, hempty, RepairResult.hasCandidates]
  have htakes : x.takesRepair = y.takesRepair := by
    simp only [RepairResult.takesRepair, hrepaired, hcandidates, hconfidence]
  have hshows : x.showsOptions = y.showsOptions := by
    simp only [RepairResult.showsOptions, hcandidates, hconfidence]
  rw [RepairResult.action, RepairResult.action, htakes, hshows]

/-- A relation of the results for two commands that holds wherever two runs end: with both commands
known to be grammatical, with proposals that are related, or with nothing. -/
structure Follows (P : Proposal → Proposal → Prop) (R : RepairResult → RepairResult → Prop)
    (c d : Command) : Prop where
  ofValid : R (.ofValid c) (.ofValid d)
  ofProposal : ∀ (s : Strategy) (p q : Proposal), P p q → R (.ofProposal c s p) (.ofProposal d s q)
  unrepaired : R (.unrepaired c) (.unrepaired d)

section Runs

variable {P : Proposal → Proposal → Prop} {R : RepairResult → RepairResult → Prop}
  {v w : Vocabulary} {c d : Command} (hR : Follows P R c d)
  (hattempt : ∀ s : Strategy, Option.Rel P (s.attempt v c) (s.attempt w d))
include hR hattempt

/-- Strategies tried in turn come to related results: they fail together, so the same one is
the first to apply. -/
theorem tryStrategies_rel (strategies : List Strategy) :
    R (tryStrategies v c strategies) (tryStrategies w d strategies) := by
  induction strategies with
  | nil => exact hR.unrepaired
  | cons s rest ih =>
      have hproposals := hattempt s
      unfold tryStrategies
      revert hproposals
      generalize s.attempt v c = x
      generalize s.attempt w d = y
      intro hproposals
      cases hproposals with
      | none => exact ih
      | some hproposal => exact hR.ofProposal s _ _ hproposal

/-- The results of two chains are related if the commands are marked alike. -/
theorem ofChain_rel (hmark : c.isValid = d.isValid) (strategies : List Strategy) :
    R (.ofChain v strategies c) (.ofChain w strategies d) := by
  unfold RepairResult.ofChain
  rw [hmark]
  cases d.isValid with
  | true => exact hR.ofValid
  | false => exact tryStrategies_rel hR hattempt strategies

end Runs

end Emend
