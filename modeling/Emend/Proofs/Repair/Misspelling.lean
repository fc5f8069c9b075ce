import Emend.Proofs.Repair.Strategies
import Mathlib.Data.List.ProdSigma

/-!
# One rule for all misspellings

An intent, a target or both can be corrected, and there are branches for each.  They follow one rule,
which `correctTypos_eq_propose` states.  Either word is read as it stands or as one of those that
are closest to it (`intentReadings`, `targetReadings`), and the readings of the command are the pairs of
these.  If there is one, it is meant, and if there are several, the grammatical ones among them are
offered, even if that leaves one: they are counted before they are looked at.

`correctTypos_isCorrection` spells this out, for all vocabularies, checked or not.
-/

namespace Emend

/-! ## Readings -/

/-- The words of a dictionary that are closest to a word, if it can be a misspelling of them.  The
empty word is a misspelling of none. -/
def closestWords (token : String) (dictionary : List String) : List String :=
  if token = "" then [] else dictionary.filter (IsNearest token dictionary maxEdits)

/-- The search finds the closest words, each with its distance. -/
theorem nearestEntries_eq_closestWords (token : String) (dictionary : List String) :
    nearestEntries token dictionary maxEdits =
      (closestWords token dictionary).map (measured token) := by
  unfold closestWords
  split
  · next hempty => rw [hempty, nearestEntries_empty, List.map_nil]
  · next hne => exact nearestEntries_eq hne dictionary maxEdits

/-- There are closest words if there are any that are close. -/
theorem closestWords_ne_nil_iff {token : String} (h : token ≠ "") {dictionary : List String} :
    closestWords token dictionary ≠ [] ↔
      ∃ word ∈ dictionary, 1 ≤ editDistance token word ∧ editDistance token word ≤ 2 := by
  have hmap : closestWords token dictionary ≠ [] ↔ nearestEntries token dictionary maxEdits ≠ [] := by
    rw [nearestEntries_eq_closestWords, ne_eq, ne_eq, List.map_eq_nil_iff]
  rw [hmap, nearestEntries_ne_nil_iff h]
  exact Iff.rfl

/-- A closest word is one or two edits away. -/
theorem editDistance_of_mem_closestWords {token word : String} {dictionary : List String}
    (h : word ∈ closestWords token dictionary) :
    1 ≤ editDistance token word ∧ editDistance token word ≤ 2 := by
  unfold closestWords at h
  split at h
  · cases h
  · obtain ⟨-, hnear⟩ := List.mem_filter.mp h
    have hnear := of_decide_eq_true hnear
    exact ⟨hnear.1, hnear.2.1⟩

/-- A closest word is in the dictionary. -/
theorem mem_of_mem_closestWords {token word : String} {dictionary : List String}
    (h : word ∈ closestWords token dictionary) : word ∈ dictionary := by
  unfold closestWords at h
  split at h
  · cases h
  · exact (List.mem_filter.mp h).1

/-- The words that a word can be read as: itself, or those it is closest to. -/
def readingsOf (corrected : Prop) [Decidable corrected] (word : String)
    (dictionary : List String) : List String :=
  if corrected then closestWords word dictionary else [word]

/-- A word that is not corrected is its own only reading. -/
theorem readingsOf_of_kept {corrected : Prop} [Decidable corrected] (h : ¬ corrected)
    (word : String) (dictionary : List String) : readingsOf corrected word dictionary = [word] :=
  if_neg h

/-- A word that is kept is at no distance from itself, and no other is read far from what it is. -/
theorem editDistance_of_mem_readingsOf {corrected : Prop} [Decidable corrected]
    {word reading : String} {dictionary : List String}
    (h : reading ∈ readingsOf corrected word dictionary) :
    editDistance word reading ≤ 2 ∧ (corrected → 1 ≤ editDistance word reading) := by
  by_cases hcorrected : corrected
  · rw [readingsOf, if_pos hcorrected] at h
    have hdistance := editDistance_of_mem_closestWords h
    exact ⟨hdistance.2, fun _ => hdistance.1⟩
  · rw [readingsOf_of_kept hcorrected] at h
    obtain rfl := List.mem_singleton.mp h
    rw [editDistance_self]
    exact ⟨Nat.zero_le 2, fun hcorrects => absurd hcorrects hcorrected⟩

/-- A word that is corrected is read as one of the dictionary, and a word that is kept as itself. -/
theorem mem_or_eq_of_mem_readingsOf {corrected : Prop} [Decidable corrected]
    {word reading : String} {dictionary : List String}
    (h : reading ∈ readingsOf corrected word dictionary) :
    corrected ∧ reading ∈ dictionary ∨ ¬ corrected ∧ reading = word := by
  by_cases hcorrected : corrected
  · rw [readingsOf, if_pos hcorrected] at h
    exact Or.inl ⟨hcorrected, mem_of_mem_closestWords h⟩
  · rw [readingsOf_of_kept hcorrected] at h
    exact Or.inr ⟨hcorrected, List.mem_singleton.mp h⟩

namespace Vocabulary

/-- An intent is corrected if it is not declared. -/
def CorrectsIntent (v : Vocabulary) (c : Command) : Prop := lowercase c.intent ∉ v.intents

/-- A target is corrected if there is one, and it is not known but close to one that is. -/
def CorrectsTarget (v : Vocabulary) (c : Command) : Prop :=
  c.target ≠ "" ∧ lowercase c.target ∉ v.targets ∧
    ∃ word ∈ v.targets, 1 ≤ editDistance c.target word ∧ editDistance c.target word ≤ 2

instance (v : Vocabulary) (c : Command) : Decidable (v.CorrectsIntent c) := by
  unfold CorrectsIntent
  infer_instance

instance (v : Vocabulary) (c : Command) : Decidable (v.CorrectsTarget c) := by
  unfold CorrectsTarget
  infer_instance

/-- The words that the intent of a command can be read as. -/
def intentReadings (v : Vocabulary) (c : Command) : List String :=
  readingsOf (v.CorrectsIntent c) c.intent v.intents

/-- The words that the target of a command can be read as. -/
def targetReadings (v : Vocabulary) (c : Command) : List String :=
  readingsOf (v.CorrectsTarget c) c.target v.targets

/-- The readings of both words, in the order of the dictionaries, the intent first. -/
def readings (v : Vocabulary) (c : Command) : List (String × String) :=
  v.intentReadings c ×ˢ v.targetReadings c

/-- The readings that make the command grammatical. -/
def grammaticalReadings (v : Vocabulary) (c : Command) : List (String × String) :=
  (v.readings c).filter fun w => v.validateCommand (c.restate w.1 w.2) = .ok ()

end Vocabulary

/-- The command that a reading makes. -/
def Command.readAs (c : Command) (w : String × String) : Command :=
  { c with intent := w.1, target := w.2, isValid := true }

/-- How many edits away from its words a command is read. -/
def Command.editsTo (c : Command) (intent target : String) : Nat :=
  max (editDistance c.intent intent) (editDistance c.target target)

/-- A command is read one or two edits away if something in it is corrected. -/
theorem editsTo_of_mem_readings {v : Vocabulary} {c : Command} {i t : String}
    (hcorrects : v.CorrectsIntent c ∨ v.CorrectsTarget c) (hi : i ∈ v.intentReadings c)
    (ht : t ∈ v.targetReadings c) : c.editsTo i t = 1 ∨ c.editsTo i t = 2 := by
  obtain ⟨hi, hi'⟩ := editDistance_of_mem_readingsOf hi
  obtain ⟨ht, ht'⟩ := editDistance_of_mem_readingsOf ht
  unfold Command.editsTo
  rcases hcorrects with h | h
  · have hpos := hi' h
    omega
  · have hpos := ht' h
    omega

/-! ## Proposals -/

/-- Approving commands keeps the grammatical ones and marks them. -/
theorem Vocabulary.filterMap_approve (v : Vocabulary) (commands : List Command) :
    commands.filterMap v.approve =
      (commands.filter fun r => v.validateCommand r = .ok ()).map (·.withValidity true) := by
  induction commands with
  | nil => rfl
  | cons r commands ih =>
      by_cases hvalid : v.validateCommand r = .ok ()
      · have happroved : v.approve r = some (r.withValidity true) :=
          approve_eq_some_iff.mpr ⟨hvalid, rfl⟩
        rw [List.filterMap_cons_some happroved, ih, List.filter_cons_of_pos (by simpa using hvalid),
          List.map_cons]
      · have happroved : v.approve r = none := by
          rw [← Option.not_isSome_iff_eq_none, approve_isSome_iff]
          exact hvalid
        rw [List.filterMap_cons_none happroved, ih,
          List.filter_cons_of_neg (by simpa using hvalid)]

namespace Strategy

variable {v : Vocabulary} {c : Command}

/-- The readings that are approved are the grammatical ones. -/
theorem filterMap_approve_readings (v : Vocabulary) (c : Command) :
    ((v.readings c).map fun w => c.restate w.1 w.2).filterMap v.approve =
      (v.grammaticalReadings c).map c.readAs := by
  rw [Vocabulary.filterMap_approve, List.filter_map, List.map_map]
  rfl

/-- Unless there is one reading, the grammatical ones are offered, if there are any. -/
theorem propose_of_length_ne_one {readings : List Command} (h : readings.length ≠ 1)
    (level optionsLevel : Binary64) (explanation optionsExplanation : String) :
    propose v readings level explanation optionsLevel optionsExplanation =
      if readings.filterMap v.approve ≠ [] then
        some (.options (readings.filterMap v.approve) optionsLevel optionsExplanation)
      else none := by
  unfold propose
  split
  · rfl
  · exact absurd rfl h
  · cases readings.filterMap v.approve <;> rfl

/-- Whether it is one command or options, what is proposed are the readings that are approved. -/
theorem commands_of_propose {readings : List Command} {level optionsLevel : Binary64}
    {explanation optionsExplanation : String} {p : Proposal}
    (h : propose v readings level explanation optionsLevel optionsExplanation = some p) :
    p.commands = readings.filterMap v.approve := by
  unfold propose at h
  split at h
  · cases h
  · obtain ⟨d, happroved, rfl⟩ := Option.map_eq_some_iff.mp h
    rw [List.filterMap_cons_some happroved]
    rfl
  · split at h
    · cases h
    · cases h
      rfl

/-- The matches of an intent that is corrected are its readings, with their distances. -/
theorem intentMatches?_eq (v : Vocabulary) (c : Command) :
    intentMatches? v c =
      if v.CorrectsIntent c then some ((v.intentReadings c).map (measured c.intent)) else none := by
  by_cases hcorrects : v.CorrectsIntent c
  · rw [if_pos hcorrects, intentMatches?_of_not_mem hcorrects, Vocabulary.intentReadings,
      readingsOf, if_pos hcorrects, nearestEntries_eq_closestWords]
  · rw [if_neg hcorrects, intentMatches?_of_mem (not_not.mp hcorrects)]

theorem targetMatches?_eq (v : Vocabulary) (c : Command) :
    targetMatches? v c =
      if v.CorrectsTarget c then some ((v.targetReadings c).map (measured c.target)) else none := by
  have hlook : (c.hasTarget = true ∧ (!v.isTarget c.target) = true) ↔
      c.target ≠ "" ∧ lowercase c.target ∉ v.targets := by
    rw [Vocabulary.hasTarget_iff, ← Vocabulary.isTarget_iff]
    simp
  rw [targetMatches?, nearestEntries_eq_closestWords, Vocabulary.targetReadings, readingsOf]
  simp only [hlook]
  by_cases hunknown : c.target ≠ "" ∧ lowercase c.target ∉ v.targets
  · have hcorrects : v.CorrectsTarget c ↔ closestWords c.target v.targets ≠ [] := by
      rw [closestWords_ne_nil_iff hunknown.1]
      exact ⟨fun h => h.2.2, fun h => ⟨hunknown.1, hunknown.2, h⟩⟩
    rw [if_pos hunknown]
    simp only [hcorrects]
    cases closestWords c.target v.targets with
    | nil => simp
    | cons word words => simp
  · rw [if_neg hunknown, if_neg (fun h => hunknown ⟨h.1, h.2.1⟩)]

/-- The commands that the readings make. -/
theorem map_readings (v : Vocabulary) (c : Command) :
    (v.readings c).map (fun w => c.restate w.1 w.2) =
      (v.intentReadings c).flatMap fun i => (v.targetReadings c).map fun t => c.restate i t := by
  simp only [Vocabulary.readings, SProd.sprod, List.product, List.map_flatMap, List.map_map]
  rfl

/-- The distances of the words that a command can be read as. -/
def readingDistances (v : Vocabulary) (c : Command) : List NearEntry :=
  (v.intentReadings c).map (measured c.intent) ++ (v.targetReadings c).map (measured c.target)

/-- **All misspellings are corrected by one rule**: if either word is to be corrected, the pairs of
readings are proposed. -/
theorem correctTypos_eq_propose (v : Vocabulary) (c : Command) :
    ∃ explanation optionsExplanation, correctTypos v c =
      if v.CorrectsIntent c ∨ v.CorrectsTarget c then
        propose v ((v.readings c).map fun w => c.restate w.1 w.2)
          (Confidence.ofEdits (largestDistance (readingDistances v c))) explanation
          (if v.CorrectsIntent c ∧ v.CorrectsTarget c then Confidence.ambiguousPair
            else Confidence.ambiguousWord) optionsExplanation
      else none := by
  rw [map_readings, readingDistances]
  unfold correctTypos
  rw [intentMatches?_eq, targetMatches?_eq]
  by_cases hintent : v.CorrectsIntent c <;> by_cases htarget : v.CorrectsTarget c
  · simp only [hintent, htarget, if_true, or_self, and_self, correctPair, List.flatMap_map,
      List.map_map]
    exact ⟨_, _, rfl⟩
  · -- A word that is kept is its own only reading, and its distance does not count.
    have hkept : v.targetReadings c = [c.target] := readingsOf_of_kept htarget _ _
    have hdistance : ∀ found, largestDistance (found ++ [measured c.target c.target]) =
        largestDistance found := by
      simp [largestDistance, measured, editDistance_self]
    simp only [hintent, htarget, hkept, if_true, if_false, true_or, and_false, correctWord,
      List.map_map, List.map_cons, List.map_nil, hdistance, ← List.map_eq_flatMap]
    exact ⟨_, _, rfl⟩
  · have hkept : v.intentReadings c = [c.intent] := readingsOf_of_kept hintent _ _
    have hdistance : ∀ found, largestDistance (measured c.intent c.intent :: found) =
        largestDistance found := by
      simp [largestDistance, measured, editDistance_self]
    simp only [hintent, htarget, hkept, if_true, if_false, or_true, false_and, correctWord,
      List.map_map, List.map_cons, List.map_nil, List.singleton_append, hdistance,
      List.flatMap_cons, List.flatMap_nil, List.append_nil]
    exact ⟨_, _, rfl⟩
  · simp only [hintent, htarget, if_false, or_self]
    exact ⟨"", "", trivial⟩

/-- With one reading of each word, the largest of the distances is that of the command. -/
theorem largestDistance_of_single {i t : String} (hi : v.intentReadings c = [i])
    (ht : v.targetReadings c = [t]) :
    largestDistance (readingDistances v c) = c.editsTo i t := by
  simp [readingDistances, hi, ht, largestDistance, measured, Command.editsTo]

theorem ofEdits_one : Confidence.ofEdits 1 = Confidence.hundredths 95 := rfl

theorem ofEdits_two : Confidence.ofEdits 2 = Confidence.hundredths 85 := rfl

end Strategy

/-! ## The rule -/

/-- What the correction of a command is, by the readings of its words.  There is one if something is to
be corrected and some reading is grammatical; it is certain if either word has one reading, and a
choice of all grammatical readings otherwise. -/
structure IsCorrection (v : Vocabulary) (c : Command) (outcome : Option Proposal) : Prop where
  applies : outcome.isSome = true ↔ (v.CorrectsIntent c ∨ v.CorrectsTarget c) ∧
    ∃ i ∈ v.intentReadings c, ∃ t ∈ v.targetReadings c, v.validateCommand (c.restate i t) = .ok ()
  single : ∀ p, outcome = some p → ∀ i t, v.intentReadings c = [i] → v.targetReadings c = [t] →
    ∃ level explanation,
      p = .single { c with intent := i, target := t, isValid := true } level explanation ∧
        (c.editsTo i t = 1 ∧ level = Confidence.hundredths 95 ∨
          c.editsTo i t = 2 ∧ level = Confidence.hundredths 85)
  options : ∀ p, outcome = some p →
    (v.intentReadings c).length ≠ 1 ∨ (v.targetReadings c).length ≠ 1 →
    ∃ explanation, p = .options
      ((v.grammaticalReadings c).map fun w =>
        { c with intent := w.1, target := w.2, isValid := true })
      (if v.CorrectsIntent c ∧ v.CorrectsTarget c then Confidence.hundredths 60
        else Confidence.hundredths 70) explanation
  certain_iff : (∃ d level explanation, outcome = some (.single d level explanation)) ↔
    (v.CorrectsIntent c ∨ v.CorrectsTarget c) ∧
      ∃ i t, v.intentReadings c = [i] ∧ v.targetReadings c = [t] ∧
        v.validateCommand (c.restate i t) = .ok ()

namespace Strategy

variable {v : Vocabulary} {c : Command} {p : Proposal}

/-- A correction is proposed if a word is corrected and some reading is grammatical. -/
theorem correctTypos_isSome_iff_readings (v : Vocabulary) (c : Command) :
    (correctTypos v c).isSome = true ↔ (v.CorrectsIntent c ∨ v.CorrectsTarget c) ∧
      ∃ i ∈ v.intentReadings c, ∃ t ∈ v.targetReadings c,
        v.validateCommand (c.restate i t) = .ok () := by
  obtain ⟨explanation, optionsExplanation, heq⟩ := correctTypos_eq_propose v c
  rw [heq]
  by_cases hcorrects : v.CorrectsIntent c ∨ v.CorrectsTarget c
  · rw [if_pos hcorrects, propose_isSome_iff, map_readings]
    simp [hcorrects, Vocabulary.approve_isSome_iff]
  · simp [hcorrects]

/-- What is proposed is a correction. -/
theorem corrects_of_eq_some (h : correctTypos v c = some p) :
    v.CorrectsIntent c ∨ v.CorrectsTarget c := by
  have hsome : (correctTypos v c).isSome = true := by rw [h]; rfl
  exact ((correctTypos_isSome_iff_readings v c).mp hsome).1

/-- If each word has one reading, the command is proposed with these. -/
theorem single_of_eq_some (h : correctTypos v c = some p) {i t : String}
    (hi : v.intentReadings c = [i]) (ht : v.targetReadings c = [t]) :
    ∃ explanation, p = .single { c with intent := i, target := t, isValid := true }
      (Confidence.ofEdits (c.editsTo i t)) explanation := by
  have hcorrects := corrects_of_eq_some h
  obtain ⟨explanation, optionsExplanation, heq⟩ := correctTypos_eq_propose v c
  have hreadings : (v.readings c).map (fun w => c.restate w.1 w.2) = [c.restate i t] := by
    rw [map_readings, hi, ht]
    rfl
  rw [heq, if_pos hcorrects, hreadings, largestDistance_of_single hi ht] at h
  obtain ⟨d, happroved, rfl⟩ := Option.map_eq_some_iff.mp h
  obtain ⟨-, rfl⟩ := Vocabulary.approve_eq_some_iff.mp happroved
  exact ⟨explanation, rfl⟩

/-- If a word has several readings, the grammatical ones are proposed as options. -/
theorem options_of_eq_some (h : correctTypos v c = some p)
    (hlength : (v.intentReadings c).length ≠ 1 ∨ (v.targetReadings c).length ≠ 1) :
    ∃ explanation, p = .options
      ((v.grammaticalReadings c).map fun w =>
        { c with intent := w.1, target := w.2, isValid := true })
      (if v.CorrectsIntent c ∧ v.CorrectsTarget c then Confidence.hundredths 60
        else Confidence.hundredths 70) explanation := by
  have hcorrects := corrects_of_eq_some h
  obtain ⟨explanation, optionsExplanation, heq⟩ := correctTypos_eq_propose v c
  have hseveral : ((v.readings c).map fun w => c.restate w.1 w.2).length ≠ 1 := by
    rw [List.length_map, Vocabulary.readings, List.length_product]
    intro hone
    rcases hlength with h | h
    · exact h (Nat.eq_one_of_mul_eq_one_right hone)
    · exact h (Nat.eq_one_of_mul_eq_one_left hone)
  rw [heq, if_pos hcorrects, propose_of_length_ne_one hseveral, filterMap_approve_readings] at h
  split at h
  · exact ⟨optionsExplanation, (Option.some.inj h).symm⟩
  · cases h

/-- **What a correction proposes**: the grammatical readings, written into the command. -/
theorem commands_of_correctTypos (h : correctTypos v c = some p) :
    p.commands = (v.grammaticalReadings c).map c.readAs := by
  have hcorrects := corrects_of_eq_some h
  obtain ⟨explanation, optionsExplanation, heq⟩ := correctTypos_eq_propose v c
  rw [heq, if_pos hcorrects] at h
  rw [commands_of_propose h, filterMap_approve_readings]

/-- A single command is proposed if there is one reading and it is grammatical. -/
theorem exists_single_iff (v : Vocabulary) (c : Command) :
    (∃ d level explanation, correctTypos v c = some (.single d level explanation)) ↔
      (v.CorrectsIntent c ∨ v.CorrectsTarget c) ∧
        ∃ i t, v.intentReadings c = [i] ∧ v.targetReadings c = [t] ∧
          v.validateCommand (c.restate i t) = .ok () := by
  constructor
  · intro hsingle
    obtain ⟨d, level, explanation, h⟩ := hsingle
    have hone : (v.intentReadings c).length = 1 ∧ (v.targetReadings c).length = 1 := by
      by_contra hseveral
      obtain ⟨_, hoptions⟩ := options_of_eq_some h (not_and_or.mp hseveral)
      cases hoptions
    obtain ⟨i, hi⟩ := List.length_eq_one_iff.mp hone.1
    obtain ⟨t, ht⟩ := List.length_eq_one_iff.mp hone.2
    have hsome : (correctTypos v c).isSome = true := by rw [h]; rfl
    obtain ⟨hcorrects, i', hi', t', ht', hvalid⟩ :=
      (correctTypos_isSome_iff_readings v c).mp hsome
    rw [hi, List.mem_singleton] at hi'
    rw [ht, List.mem_singleton] at ht'
    rw [hi', ht'] at hvalid
    exact ⟨hcorrects, i, t, hi, ht, hvalid⟩
  · intro hcertain
    obtain ⟨hcorrects, i, t, hi, ht, hvalid⟩ := hcertain
    have hsome : (correctTypos v c).isSome = true :=
      (correctTypos_isSome_iff_readings v c).mpr
        ⟨hcorrects, i, by simp [hi], t, by simp [ht], hvalid⟩
    obtain ⟨p, hp⟩ := Option.isSome_iff_exists.mp hsome
    obtain ⟨explanation, rfl⟩ := single_of_eq_some hp hi ht
    exact ⟨_, _, explanation, hp⟩

/-- **The exact rule of corrections**, under any vocabulary. -/
theorem correctTypos_isCorrection (v : Vocabulary) (c : Command) :
    IsCorrection v c (typoCorrection.attempt v c) where
  applies := correctTypos_isSome_iff_readings v c
  single := by
    intro p h i t hi ht
    obtain ⟨explanation, hp⟩ := single_of_eq_some h hi ht
    refine ⟨_, explanation, hp, ?_⟩
    have hedits : c.editsTo i t = 1 ∨ c.editsTo i t = 2 :=
      editsTo_of_mem_readings (corrects_of_eq_some h) (by simp [hi]) (by simp [ht])
    rcases hedits with hone | htwo
    · exact Or.inl ⟨hone, by rw [hone, ofEdits_one]⟩
    · exact Or.inr ⟨htwo, by rw [htwo, ofEdits_two]⟩
  options := fun _ h hlength => options_of_eq_some h hlength
  certain_iff := exists_single_iff v c

end Strategy

end Emend
