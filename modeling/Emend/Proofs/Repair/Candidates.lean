import Emend.Proofs.Repair.Misspelling
import Emend.Proofs.Repair.Setting
import Mathlib.Data.List.Count
import Mathlib.Data.List.Nodup
import Mathlib.Data.Prod.Basic

/-!
# Candidates as alternatives

Only corrections leave a choice, and the candidates are then the grammatical readings of the command.
A word of the vocabulary is a reading as often as it is listed, and a pair of words as often as the
product of the two says (`count_grammaticalReadings`), so a choice can hold the same command several
times.  `candidates_distinct_iff` says when it does, and that it never does if the vocabulary lists
no intent and no target twice.  A vocabulary may do so, as normalization drops blank entries but
not repeated ones: with two spellings of an intent the user is asked to choose between two
commands that are the same (`candidate_repeated`).
-/

namespace Emend

/-- A pair occurs in a product as often as its two sides make it. -/
theorem count_product {α β : Type} [DecidableEq α] [DecidableEq β] (l : List α) (m : List β)
    (a : α) (b : β) : (l ×ˢ m).count (a, b) = l.count a * m.count b := by
  induction l with
  | nil => simp
  | cons x l ih =>
      rw [List.product_cons, List.count_append, ih, List.count_cons, Nat.add_mul, Nat.add_comm]
      congr 1
      by_cases hx : x = a
      · subst hx
        rw [List.count_map_of_injective m (Prod.mk x) (Prod.mk_right_injective x)]
        simp
      · have hnot : (a, b) ∉ m.map (Prod.mk x) := by
          intro hmem
          obtain ⟨y, -, heq⟩ := List.mem_map.mp hmem
          exact hx (Prod.mk.inj heq).1
        rw [List.count_eq_zero.mpr hnot]
        simp [hx]

/-! ## Readings -/

/-- A word that is corrected is read as an entry as often as that is listed, and a word that is kept
is read once. -/
theorem count_readingsOf {corrected : Prop} [Decidable corrected] {word reading : String}
    {dictionary : List String} (h : reading ∈ readingsOf corrected word dictionary) :
    (readingsOf corrected word dictionary).count reading =
      if corrected then dictionary.count reading else 1 := by
  by_cases hcorrected : corrected
  · rw [readingsOf, if_pos hcorrected, closestWords] at h
    rw [readingsOf, if_pos hcorrected, if_pos hcorrected, closestWords]
    split at h
    · cases h
    · next hne =>
        rw [if_neg hne]
        exact List.count_filter (List.mem_filter.mp h).2
  · rw [readingsOf_of_kept hcorrected] at h
    rw [readingsOf_of_kept hcorrected, if_neg hcorrected, List.mem_singleton.mp h,
      List.count_singleton_self]

/-- A word has no two readings that are the same if no entry is listed twice. -/
theorem nodup_readingsOf {corrected : Prop} [Decidable corrected] {dictionary : List String}
    (h : dictionary.Nodup) (word : String) : (readingsOf corrected word dictionary).Nodup := by
  unfold readingsOf closestWords
  split
  · split
    · exact List.nodup_nil
    · exact h.filter _
  · exact List.nodup_singleton word

namespace Vocabulary

/-- How often the vocabulary lists a pair of words that a command is read as. -/
def timesListed (v : Vocabulary) (c : Command) (w : String × String) : Nat :=
  (if v.CorrectsIntent c then v.intents.count w.1 else 1) *
    (if v.CorrectsTarget c then v.targets.count w.2 else 1)

/-- A grammatical reading is offered as often as its words are listed. -/
theorem count_grammaticalReadings {v : Vocabulary} {c : Command} {w : String × String}
    (h : w ∈ v.grammaticalReadings c) :
    (v.grammaticalReadings c).count w = v.timesListed c w := by
  obtain ⟨hreading, hvalid⟩ := List.mem_filter.mp h
  obtain ⟨hintent, htarget⟩ := List.mem_product.mp hreading
  have hkept : (v.grammaticalReadings c).count w = (v.readings c).count w :=
    List.count_filter hvalid
  rw [hkept, readings, count_product, timesListed]
  exact congrArg₂ (· * ·) (count_readingsOf hintent) (count_readingsOf htarget)

/-- The readings differ if and only if the words of each are listed once. -/
theorem nodup_grammaticalReadings_iff (v : Vocabulary) (c : Command) :
    (v.grammaticalReadings c).Nodup ↔ ∀ w ∈ v.grammaticalReadings c, v.timesListed c w = 1 := by
  rw [List.nodup_iff_count_eq_one]
  exact forall₂_congr fun w hw => by rw [count_grammaticalReadings hw]

/-- Where no entry is listed twice, no reading is offered twice. -/
theorem nodup_grammaticalReadings {v : Vocabulary} (hintents : v.intents.Nodup)
    (htargets : v.targets.Nodup) (c : Command) : (v.grammaticalReadings c).Nodup := by
  have hproduct : (v.readings c).Nodup :=
    (nodup_readingsOf hintents c.intent).product (nodup_readingsOf htargets c.target)
  exact hproduct.filter _

end Vocabulary

/-! ## Candidates -/

@[simp] theorem Command.words_readAs (c : Command) (w : String × String) :
    (c.readAs w).words = w := rfl

/-- Different words make different readings of a command. -/
theorem Command.readAs_injective (c : Command) : Function.Injective c.readAs := by
  intro w u heq
  rw [← c.words_readAs w, heq, c.words_readAs]

/-- Nobody but the corrections leaves a choice. -/
theorem Strategy.eq_typoCorrection_of_options {v : Vocabulary} {c : Command} {s : Strategy}
    {ds : List Command} {level : Binary64} {explanation : String}
    (h : s.attempt v c = some (.options ds level explanation)) : s = .typoCorrection := by
  have hproposes : Proposes v c s (.options ds level explanation) := attempt_proposes h
  cases hproposes with
  | options _ _ hlevel =>
      cases s with
      | typoCorrection => rfl
      | _ => cases hlevel

/-- **What the candidates are**: none, or the grammatical readings of the command. -/
theorem candidates_ofChain (v : Vocabulary) (strategies : List Strategy) (c : Command) :
    (RepairResult.ofChain v strategies c).candidates = [] ∨
      (RepairResult.ofChain v strategies c).candidates =
        (v.grammaticalReadings c).map c.readAs := by
  cases hmark : c.isValid with
  | true =>
      rw [RepairResult.ofChain_of_valid hmark]
      exact Or.inl rfl
  | false =>
      rw [RepairResult.ofChain_of_not_valid hmark]
      rcases tryStrategies_cases v c strategies with ⟨-, heq⟩ | ⟨-, s, -, p, -, -, hs, heq⟩
      · rw [heq]
        exact Or.inl rfl
      · rw [heq]
        cases p with
        | single d level explanation => exact Or.inl rfl
        | options ds level explanation =>
            obtain rfl := Strategy.eq_typoCorrection_of_options hs
            exact Or.inr (Strategy.commands_of_correctTypos hs)

/-- **When the candidates are alternatives.**  Under a checked vocabulary every command that is not blank
has a result in which a candidate stands as often as its words are listed.  So no two candidates have
the same intent and target if and only if the words of each are listed once, and this is the case for
a vocabulary that lists no two intents and no two targets with the same key. -/
theorem candidates_distinct_iff {v n : Vocabulary} (hv : v.checked = .ok n)
    (strategies : List Strategy) {c : Command} (hblank : c.isBlank = false) :
    ∃ r, repair n strategies c = .ok r ∧
      (∀ d ∈ r.candidates, r.candidates.count d = n.timesListed c d.words) ∧
      ((r.candidates.map Command.words).Nodup ↔
        ∀ d ∈ r.candidates, n.timesListed c d.words = 1) ∧
      ((wordKeys v.intents).Nodup → (wordKeys v.targets).Nodup →
        (r.candidates.map Command.words).Nodup) := by
  refine ⟨_, repair_eq_ok hblank, ?_⟩
  obtain ⟨rfl, -⟩ := Vocabulary.checked_eq_ok_iff.mp hv
  rcases candidates_ofChain v.normalized strategies c with hnone | hreadings
  · rw [hnone]
    simp
  · have hwords : ((v.normalized.grammaticalReadings c).map c.readAs).map Command.words =
        v.normalized.grammaticalReadings c := by
      rw [List.map_map]
      exact List.map_id _
    rw [hreadings, hwords]
    refine ⟨?_, ?_, fun hintents htargets =>
      Vocabulary.nodup_grammaticalReadings hintents htargets c⟩
    · intro d hd
      obtain ⟨w, hw, rfl⟩ := List.mem_map.mp hd
      rw [List.count_map_of_injective _ _ c.readAs_injective,
        Vocabulary.count_grammaticalReadings hw, Command.words_readAs]
    · rw [List.forall_mem_map]
      exact Vocabulary.nodup_grammaticalReadings_iff v.normalized c

/-- Two words of the built-in vocabulary that are equally close. -/
theorem candidates_distinct_iff_plst :
    let c := Command.ofParts "mender plst project" "plst" "project" ∅
    (Vocabulary.builtIn.checked = .ok .builtIn ∧ c.isBlank = false ∧
      (wordKeys Vocabulary.builtIn.intents).Nodup ∧ (wordKeys Vocabulary.builtIn.targets).Nodup) ∧
    ∃ r, repair .builtIn Strategy.all c = .ok r ∧
      r.candidates.map Command.words = [("test", "project"), ("plan", "project")] ∧
      (r.candidates.map Command.words).Nodup := by
  intro c
  have hblank : c.isBlank = false := by decide +kernel
  have hintents : (wordKeys Vocabulary.builtIn.intents).Nodup := by decide +kernel
  have htargets : (wordKeys Vocabulary.builtIn.targets).Nodup := by decide +kernel
  have hwords : (repair .builtIn Strategy.all c).map (fun r => r.candidates.map Command.words) =
      .ok [("test", "project"), ("plan", "project")] := by
    decide +kernel
  obtain ⟨r, hr, -, -, hdistinct⟩ :=
    candidates_distinct_iff Vocabulary.builtIn_checked Strategy.all hblank
  rw [hr] at hwords
  exact ⟨⟨Vocabulary.builtIn_checked, hblank, hintents, htargets⟩, r, hr,
    Except.ok.inj hwords, hdistinct hintents htargets⟩

/-- An intent that is listed in two spellings, and a choice between it and itself. -/
theorem candidate_repeated :
    let v : Vocabulary :=
      { Vocabulary.builtIn with
        intents := ["status", "Status"], targetRequired := [], synonyms := ∅ }
    ∃ n r, v.checked = .ok n ∧
      repair n Strategy.all (.ofParts "mender stauts" "stauts" "" ∅) = .ok r ∧
      r.candidates.map Command.words = [("status", ""), ("status", "")] ∧
      ¬ (r.candidates.map Command.words).Nodup := by
  intro v
  have hchecked : v.checked = .ok v.normalized := by decide +kernel
  have hwords : (repair v.normalized Strategy.all (.ofParts "mender stauts" "stauts" "" ∅)).map
      (fun r => r.candidates.map Command.words) = .ok [("status", ""), ("status", "")] := by
    decide +kernel
  cases hr : repair v.normalized Strategy.all (.ofParts "mender stauts" "stauts" "" ∅) with
  | error e =>
      rw [hr] at hwords
      cases hwords
  | ok r =>
      rw [hr] at hwords
      have hpairs : r.candidates.map Command.words = [("status", ""), ("status", "")] :=
        Except.ok.inj hwords
      refine ⟨v.normalized, r, hchecked, hr, hpairs, ?_⟩
      rw [hpairs]
      decide

end Emend
