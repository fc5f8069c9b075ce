import Emend.Proofs.Repair.Misspelling
import Emend.Proofs.Repair.TwoRuns
import Mathlib.Data.List.Perm.Basic

/-!
# The order of a vocabulary

A vocabulary lists its words in some order.  A word is looked up wherever it stands, and of the
words that are closest to a misspelled one all are kept, so there is no first match that the order
could decide.  What it does decide is the order in which candidates are offered, and nothing else:
`SameButOrder` is this relation, of vocabularies, of proposals and of results.

Three strategies ask a vocabulary only what it lists, and propose the same.  Corrections go through
lists of readings, which are permutations of each other, and whether there is one reading or
several, and how far they are, does not depend on the order (`correctTypos_rel`).  So results are
the same but for the order of the candidates (`repair_ignores_order`), and this is as true of the
vocabularies as they are written as of their checked forms.
-/

namespace Emend

/-! ## Vocabularies -/

/-- Two vocabularies that list the same words in different orders. -/
structure Vocabulary.SameButOrder (v w : Vocabulary) : Prop where
  programName : v.programName = w.programName
  intents : v.intents.Perm w.intents
  targetRequired : v.targetRequired.Perm w.targetRequired
  defaultIntent : v.defaultIntent = w.defaultIntent
  targets : v.targets.Perm w.targets
  synonyms : v.synonyms = w.synonyms

theorem eq_nil_iff_of_perm {α : Type} {l l' : List α} (h : l.Perm l') : l = [] ↔ l' = [] := by
  rw [← List.isEmpty_iff, h.isEmpty_eq, List.isEmpty_iff]

/-- Words in another order have their keys in that order. -/
theorem wordKeys_perm {words words' : List String} (h : words.Perm words') :
    (wordKeys words).Perm (wordKeys words') :=
  (h.map wordKey).filter _

namespace Vocabulary.SameButOrder

variable {v w : Vocabulary} (h : v.SameButOrder w)
include h

/-- Looking up a word does not depend on the order of the entries. -/
theorem isIntent (word : String) : v.isIntent word = w.isIntent word := h.intents.contains_eq

theorem isTarget (word : String) : v.isTarget word = w.isTarget word := h.targets.contains_eq

theorem requiresTarget (word : String) : v.requiresTarget word = w.requiresTarget word :=
  h.targetRequired.contains_eq

/-- A synonym is looked up by its key, wherever it is listed. -/
theorem synonym? (word : String) : v.synonym? word = w.synonym? word := by
  rw [Vocabulary.synonym?, h.synonyms, Vocabulary.synonym?]

/-- The grammar is the same. -/
theorem validateCommand (c : Command) : v.validateCommand c = w.validateCommand c := by
  simp only [Vocabulary.validateCommand, h.isIntent, h.requiresTarget]

theorem approve : v.approve = w.approve := by
  funext c
  simp only [Vocabulary.approve, h.validateCommand]

/-- Vocabularies that are the same but for the order have such normal forms. -/
theorem normalized : v.normalized.SameButOrder w.normalized where
  programName := congrArg trimmed h.programName
  intents := wordKeys_perm h.intents
  targetRequired := wordKeys_perm h.targetRequired
  defaultIntent := congrArg wordKey h.defaultIntent
  targets := wordKeys_perm h.targets
  synonyms := by rw [Vocabulary.normalized, Vocabulary.normalized, h.synonyms]

/-- Which of several references is reported first can depend on the order, but not whether one is.
-/
theorem validate : v.validate = .ok () ↔ w.validate = .ok () := by
  simp only [validate_eq_ok_iff, ne_eq, eq_nil_iff_of_perm h.intents, h.isIntent, h.defaultIntent,
    h.synonyms, h.targetRequired.mem_iff]

/-- They are accepted or turned away together. -/
theorem accepted_iff : (∃ n, v.checked = .ok n) ↔ ∃ m, w.checked = .ok m := by
  simp only [checked_eq_ok_iff, exists_eq_left', h.normalized.validate]

/-- The checked forms differ in the order only. -/
theorem checked {n m : Vocabulary} (hn : v.checked = .ok n) (hm : w.checked = .ok m) :
    n.SameButOrder m := by
  obtain ⟨rfl, -⟩ := checked_eq_ok_iff.mp hn
  obtain ⟨rfl, -⟩ := checked_eq_ok_iff.mp hm
  exact h.normalized

end Vocabulary.SameButOrder

/-! ## Readings -/

/-- Listed in another order, the closest words are the same. -/
theorem closestWords_perm {dictionary dictionary' : List String}
    (h : dictionary.Perm dictionary') (token : String) :
    (closestWords token dictionary).Perm (closestWords token dictionary') := by
  unfold closestWords
  split
  · exact .refl []
  · -- Being closest is a matter of all entries, in whatever order they are compared.
    have hnearest : ∀ entry, IsNearest token dictionary maxEdits entry ↔
        IsNearest token dictionary' maxEdits entry := by
      intro entry
      simp only [IsNearest, h.mem_iff]
    simp only [hnearest]
    exact h.filter _

/-- Listed in another order, the readings of a word are the same. -/
theorem readingsOf_perm {corrected corrected' : Prop} [Decidable corrected] [Decidable corrected']
    (hcorrected : corrected ↔ corrected') {dictionary dictionary' : List String}
    (h : dictionary.Perm dictionary') (word : String) :
    (readingsOf corrected word dictionary).Perm (readingsOf corrected' word dictionary') := by
  unfold readingsOf
  simp only [hcorrected]
  split
  · exact closestWords_perm h word
  · exact .refl [word]

/-- The largest of some distances is found in any order. -/
theorem largestDistance_perm {found found' : List NearEntry} (h : found.Perm found') :
    Strategy.largestDistance found = Strategy.largestDistance found' := by
  apply h.foldl_eq'
  intro m _ m' _ distance
  exact Nat.max_right_comm distance m.distance m'.distance

namespace Vocabulary.SameButOrder

variable {v w : Vocabulary} (h : v.SameButOrder w) (c : Command)
include h

/-- The same words are corrected. -/
theorem correctsIntent : v.CorrectsIntent c ↔ w.CorrectsIntent c := by
  rw [CorrectsIntent, CorrectsIntent, h.intents.mem_iff]

theorem correctsTarget : v.CorrectsTarget c ↔ w.CorrectsTarget c := by
  simp only [CorrectsTarget, h.targets.mem_iff]

/-- A word has the same readings, in some order. -/
theorem intentReadings : (v.intentReadings c).Perm (w.intentReadings c) :=
  readingsOf_perm (h.correctsIntent c) h.intents c.intent

theorem targetReadings : (v.targetReadings c).Perm (w.targetReadings c) :=
  readingsOf_perm (h.correctsTarget c) h.targets c.target

/-- A command has the same readings, in some order. -/
theorem readings : (v.readings c).Perm (w.readings c) :=
  (h.intentReadings c).product (h.targetReadings c)

/-- The readings have the same distances, in some order. -/
theorem readingDistances :
    (Strategy.readingDistances v c).Perm (Strategy.readingDistances w c) :=
  ((h.intentReadings c).map _).append ((h.targetReadings c).map _)

end Vocabulary.SameButOrder

/-! ## Proposals -/

/-- Two proposals of the same command or of the same options in different orders, with the same
confidence.  Nothing is asked of the explanations, which list the options. -/
inductive Proposal.SameButOrder : Proposal → Proposal → Prop
  | single {c : Command} {confidence : Binary64} {explanation explanation' : String} :
      SameButOrder (.single c confidence explanation) (.single c confidence explanation')
  | options {cs ds : List Command} {confidence : Binary64} {explanation explanation' : String}
      (h : cs.Perm ds) :
      SameButOrder (.options cs confidence explanation) (.options ds confidence explanation')

theorem Proposal.SameButOrder.refl (p : Proposal) : p.SameButOrder p := by
  cases p with
  | single => exact .single
  | options => exact .options (.refl _)

namespace Strategy

/-- With the same proposals, there is nothing for the order to decide. -/
theorem rel_refl (p : Option Proposal) : Option.Rel Proposal.SameButOrder p p := by
  cases p with
  | none => exact .none
  | some p => exact .some (.refl p)

/-- Readings are proposed alike in any order: if there is one, it stays the only one, and if there
are several, the approved ones among them are offered. -/
theorem propose_rel {v w : Vocabulary} (h : v.SameButOrder w) {readings readings' : List Command}
    (hreadings : readings.Perm readings') (level optionsLevel : Binary64)
    (explanation explanation' optionsExplanation optionsExplanation' : String) :
    Option.Rel Proposal.SameButOrder
      (propose v readings level explanation optionsLevel optionsExplanation)
      (propose w readings' level explanation' optionsLevel optionsExplanation') := by
  by_cases hone : readings.length = 1
  · obtain ⟨only, rfl⟩ := List.length_eq_one_iff.mp hone
    rw [hreadings.symm.eq_singleton, propose, propose, h.approve]
    cases w.approve only with
    | none => exact .none
    | some repaired => exact .some .single
  · have hone' : readings'.length ≠ 1 := hreadings.length_eq ▸ hone
    have happroved : (readings.filterMap w.approve).Perm (readings'.filterMap w.approve) :=
      hreadings.filterMap _
    rw [propose_of_length_ne_one hone, propose_of_length_ne_one hone', h.approve]
    exact rel_guarded (not_congr (eq_nil_iff_of_perm happroved)) (.some (.options happroved))

variable {v w : Vocabulary} (h : v.SameButOrder w) (c : Command)
include h

/-- Normalization looks at nothing that could be in another order. -/
theorem normalizeModifiers_eq : normalizeModifiers v c = normalizeModifiers w c := by
  simp only [normalizeModifiers, h.approve]

/-- Argument order looks up words and compares none. -/
theorem orderArguments_eq : orderArguments v c = orderArguments w c := by
  simp only [orderArguments, swapArguments, promoteTarget, assumeDefaultIntent, reorder, h.approve,
    h.isIntent, h.isTarget, h.defaultIntent]

/-- A synonym has one meaning. -/
theorem expandSynonym_eq : expandSynonym v c = expandSynonym w c := by
  simp only [expandSynonym, h.approve, h.synonym?]

/-- **Corrections are the same in any order.** -/
theorem correctTypos_rel :
    Option.Rel Proposal.SameButOrder (correctTypos v c) (correctTypos w c) := by
  obtain ⟨explanation, optionsExplanation, hv⟩ := correctTypos_eq_propose v c
  obtain ⟨explanation', optionsExplanation', hw⟩ := correctTypos_eq_propose w c
  rw [hv, hw, largestDistance_perm (h.readingDistances c)]
  simp only [h.correctsIntent, h.correctsTarget]
  exact rel_guarded Iff.rfl (propose_rel h ((h.readings c).map _) _ _ _ _ _ _)

/-- A strategy applies in any order of the words, and proposes the same up to order.  The other
three ask a vocabulary only what it lists. -/
theorem attempt_rel (s : Strategy) :
    Option.Rel Proposal.SameButOrder (s.attempt v c) (s.attempt w c) := by
  cases s with
  | flagNormalization =>
      rw [attempt, attempt, normalizeModifiers_eq h]
      exact rel_refl _
  | argumentOrder =>
      rw [attempt, attempt, orderArguments_eq h]
      exact rel_refl _
  | synonymExpansion =>
      rw [attempt, attempt, expandSynonym_eq h]
      exact rel_refl _
  | typoCorrection => exact correctTypos_rel h c

end Strategy

/-! ## Results -/

/-- Two results for the same command that were found in the same way and with the same confidence,
with the same repaired command and the same candidates in different orders. -/
structure RepairResult.SameButOrder (x y : RepairResult) : Prop where
  submitted : x.submitted = y.submitted
  repaired : x.repaired = y.repaired
  confidence : x.confidence = y.confidence
  candidates : x.candidates.Perm y.candidates
  finding : x.finding = y.finding

namespace RepairResult.SameButOrder

theorem refl (x : RepairResult) : x.SameButOrder x := ⟨rfl, rfl, rfl, .refl _, rfl⟩

/-- Two runs that differ in the order of the entries end in the same way, up to the order of
options. -/
theorem follows (c : Command) : Follows Proposal.SameButOrder RepairResult.SameButOrder c c where
  ofValid := .refl _
  ofProposal := by
    intro s p q hpq
    cases hpq with
    | single => exact ⟨rfl, rfl, rfl, .refl [], rfl⟩
    | options hperm => exact ⟨rfl, rfl, rfl, hperm, rfl⟩
  unrepaired := .refl _

/-- The order of options has no part in what is done. -/
theorem action {x y : RepairResult} (h : x.SameButOrder y) : x.action = y.action :=
  RepairResult.action_congr (congrArg Option.isSome h.repaired) h.confidence h.candidates.length_eq

end RepairResult.SameButOrder

/-- Two vocabularies under which repairs differ in nothing but the order of the candidates.  By any
chain of strategies and for any command, either there is nothing to repair under both, or both come
to a result, the same but for this order, and the same is done with it. -/
def Vocabulary.RepairAlike (v w : Vocabulary) : Prop :=
  ∀ (strategies : List Strategy) (c : Command),
    (repair v strategies c = .error .undefinedCommand ∧
        repair w strategies c = .error .undefinedCommand) ∨
      ∃ x y, repair v strategies c = .ok x ∧ repair w strategies c = .ok y ∧
        x.SameButOrder y ∧ x.action = y.action

/-- **Every strategy proposes the same**, but for the order of options. -/
theorem Vocabulary.SameButOrder.repairAlike {v w : Vocabulary} (h : v.SameButOrder w) :
    v.RepairAlike w := by
  intro strategies c
  cases hblank : c.isBlank with
  | true =>
      left
      exact ⟨if_pos hblank, if_pos hblank⟩
  | false =>
      right
      have hsame : (RepairResult.ofChain v strategies c).SameButOrder (.ofChain w strategies c) :=
        ofChain_rel (RepairResult.SameButOrder.follows c) (Strategy.attempt_rel h c) rfl strategies
      exact ⟨_, _, repair_eq_ok hblank, repair_eq_ok hblank, hsame, hsame.action⟩

/-- **The order of a vocabulary orders the candidates and decides nothing.**  Let two vocabularies
list the same intents, the same targets and the same intents that need a target, in different
orders.  If one is accepted, so is the other, and commands are repaired alike under both, whether
the vocabularies are used as they are written or in their checked forms. -/
theorem repair_ignores_order {v w : Vocabulary} (h : v.SameButOrder w) :
    ((∃ n, v.checked = .ok n) ↔ ∃ m, w.checked = .ok m) ∧
      (∀ n m, v.checked = .ok n → w.checked = .ok m → n.RepairAlike m) ∧
      v.RepairAlike w := by
  refine ⟨h.accepted_iff, ?_, h.repairAlike⟩
  intro n m hn hm
  exact (h.checked hn hm).repairAlike

/-- The built-in vocabulary with its lists in reverse.  Either word of the command can stand for
two, and the four pairs are offered in reverse. -/
theorem repair_ignores_order_plst_rild :
    let w := { Vocabulary.builtIn with
      intents := Vocabulary.builtIn.intents.reverse
      targetRequired := Vocabulary.builtIn.targetRequired.reverse
      targets := Vocabulary.builtIn.targets.reverse }
    let c := Command.ofParts "mender plst rild" "plst" "rild" .empty
    let offered := fun v =>
      (repair v Strategy.all c).toOption.map (·.candidates.map fun d => (d.intent, d.target))
    Vocabulary.builtIn.SameButOrder w ∧
      offered .builtIn =
        some [("test", "risk"), ("test", "build"), ("plan", "risk"), ("plan", "build")] ∧
      offered w =
        some [("plan", "build"), ("plan", "risk"), ("test", "build"), ("test", "risk")] ∧
      (∃ m, w.checked = .ok m) ∧ ∀ m, w.checked = .ok m → Vocabulary.builtIn.RepairAlike m := by
  intro w c offered
  have horder : Vocabulary.builtIn.SameButOrder w :=
    ⟨rfl, (List.reverse_perm _).symm, (List.reverse_perm _).symm, rfl, (List.reverse_perm _).symm,
      rfl⟩
  obtain ⟨haccepted, halike, -⟩ := repair_ignores_order horder
  refine ⟨horder, by decide +kernel, by decide +kernel,
    haccepted.mp ⟨_, Vocabulary.builtIn_checked⟩, ?_⟩
  intro m hm
  exact halike _ m Vocabulary.builtIn_checked hm

end Emend
