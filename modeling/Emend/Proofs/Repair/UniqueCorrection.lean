import Emend.Proofs.Repair.DecisionTable

/-!
# Misspellings that can mean only one intent

If the declared intents are far enough from each other, a misspelled intent can be decoded: a
word that is `d` edits away from an intent is more than `d` edits away from every intent that is
at least `2 * d + 1` edits away from that one.  This is the triangle inequality, and
`nearestEntries_eq_singleton` draws the conclusion for the closest tier.

The rest is to see that nobody else takes the command: `unique_intent_typo_corrected` says that
the standard chain restores the intent, whatever the text, the modifiers and the metadata are.
-/

namespace Emend

/-! ## Decoding -/

/-- A word closer to one intent than half its distance from another is closer to it than to
the other. -/
theorem editDistance_lt_of_apart {word intent other : String} {d : Nat}
    (hdist : editDistance word intent = d) (hapart : 2 * d + 1 ≤ editDistance intent other) :
    editDistance word intent < editDistance word other := by
  have htriangle := editDistance_triangle intent word other
  rw [editDistance_symm intent word] at htriangle
  omega

/-- A word that differs from every declared intent is not declared: it is at no distance from
its own lower case. -/
theorem unknown_of_editDistance_pos {v : Vocabulary} {word : String}
    (h : ∀ other ∈ v.intents, 0 < editDistance word other) : lowercase word ∉ v.intents := by
  intro hmem
  have hpos := h _ hmem
  have hzero : editDistance word (lowercase word) = 0 := by
    rw [editDistance_eq_zero_iff, lowercase_lowercase]
  omega

/-- An entry that stands once in the dictionary, and than which every other one is further
away, is all there is of the closest tier. -/
theorem nearestEntries_eq_singleton {token entry : String} {dictionary : List String} {limit : Nat}
    (hne : token ≠ "") (honce : dictionary.count entry = 1) (hpos : 0 < editDistance token entry)
    (hlimit : editDistance token entry ≤ limit)
    (hfar : ∀ other ∈ dictionary, other ≠ entry →
      editDistance token entry < editDistance token other) :
    nearestEntries token dictionary limit = [measured token entry] := by
  have hmem : entry ∈ dictionary := List.count_pos_iff.mp (by omega)
  have hnearest : ∀ e ∈ dictionary, (IsNearest token dictionary limit e ↔ e = entry) := by
    intro e he
    constructor
    · intro hnear
      by_contra hother
      have hle := hnear.2.2 entry hmem hpos
      have hlt := hfar e he hother
      omega
    · intro heq
      subst heq
      refine ⟨hpos, hlimit, ?_⟩
      intro other hother _
      by_cases hsame : other = e
      · rw [hsame]
      · exact Nat.le_of_lt (hfar other hother hsame)
  have hfilter : dictionary.filter (IsNearest token dictionary limit) = [entry] := by
    calc dictionary.filter (IsNearest token dictionary limit)
        = dictionary.filter (· == entry) := by
          apply List.filter_congr
          intro e he
          rw [Bool.eq_iff_iff]
          simp [hnearest e he]
      _ = List.replicate (dictionary.count entry) entry := List.filter_beq entry
      _ = [entry] := by rw [honce]; rfl
  rw [nearestEntries_eq hne, hfilter]
  rfl

/-! ## Corrections that leave no choice -/

namespace Strategy

variable {v : Vocabulary} {c : Command}

/-- A target that is known, or far from every known one, is left alone. -/
theorem targetMatches?_eq_none
    (h : lowercase c.target ∈ v.targets ∨ ∀ t ∈ v.targets, maxEdits < editDistance c.target t) :
    targetMatches? v c = none := by
  unfold targetMatches?
  rcases h with hknown | hfar
  · rw [if_neg]
    simp [Vocabulary.isTarget_iff.mpr hknown]
  · have hnone : nearestEntries c.target v.targets maxEdits = [] := by
      rw [List.eq_nil_iff_forall_not_mem]
      intro m hm
      obtain ⟨-, hdict, hnear, -⟩ := mem_nearestEntries.mp hm
      have hlt := hfar m.entry hdict
      have hle := hnear.2.1
      omega
    rw [hnone]
    split <;> rfl

/-- What is proposed if the intent can mean only one thing and the target stays. -/
theorem correctTypos_eq_single (hv : v.Consistent) {intent : String}
    (hunknown : lowercase c.intent ∉ v.intents)
    (hnear : nearestEntries c.intent v.intents maxEdits = [measured c.intent intent])
    (hdeclared : intent ∈ v.intents) (htarget : c.target ≠ "")
    (hkeep : targetMatches? v c = none) :
    ∃ explanation, correctTypos v c =
      some (.single { c with intent := intent, isValid := true }
        (Confidence.ofEdits (editDistance c.intent intent)) explanation) := by
  have hfix : v.approve (c.restate intent c.target) =
      some { c with intent := intent, isValid := true } :=
    hv.approve_restate c hdeclared (Or.inl htarget)
  have hlargest : largestDistance [measured c.intent intent] = editDistance c.intent intent := by
    simp [largestDistance, measured]
  rw [correctTypos, intentMatches?_of_not_mem hunknown, hkeep, hnear]
  simp only [correctWord, hlargest, List.map_cons, List.map_nil, propose]
  exact ⟨_, by rw [show (measured c.intent intent).entry = intent from rfl, hfix]; rfl⟩

end Strategy

/-! ## What is done with them -/

/-- A single correction is taken without asking, however many edits it is made of. -/
theorem action_of_single (c command : Command) (d : Nat) (explanation : String) :
    (RepairResult.ofProposal c .typoCorrection
      (.single command (Confidence.ofEdits d) explanation)).action = .autoCorrect := by
  have hstate := inState_single c command (Strategy.ofEdits_mem_fixLevels d) explanation
  rw [← RepairResult.action_decided]
  exact hstate.action_eq

/-- **Unique decoding.**  Let an intent stand once in a checked vocabulary, and let all other
intents be at least `2 * d + 1` edits away from it, where `d` is one or two.  A command whose
intent is `d` edits away from it, with a target that is neither a declared intent nor close
to another known target, is repaired without asking: its intent becomes that intent, it is
marked as grammatical, and nothing else changes. -/
theorem unique_intent_typo_corrected {v n : Vocabulary} {c : Command} {intent : String} {d : Nat}
    (hv : v.checked = .ok n) (honce : n.intents.count intent = 1) (hd : d = 1 ∨ d = 2)
    (hne : c.intent ≠ "") (hdist : editDistance c.intent intent = d)
    (hapart : ∀ other ∈ n.intents, other ≠ intent → 2 * d + 1 ≤ editDistance intent other)
    (hsynonym : n.synonyms.get? (lowercase c.intent) = none) (hmark : c.isValid = false)
    (htarget : c.target ≠ "") (hplain : lowercase c.target ∉ n.intents)
    (hknown : lowercase c.target ∈ n.targets ∨ ∀ t ∈ n.targets, 2 < editDistance c.target t) :
    ∃ r, repairWithDecision n Strategy.all c = .ok ⟨r, .autoCorrect⟩ ∧
      r.submitted = c ∧ r.finding = some (.strategy .typoCorrection) ∧ r.candidates = [] ∧
      r.confidence = (if d = 1 then Confidence.hundredths 95 else Confidence.hundredths 85) ∧
      r.repaired = some { c with intent := intent, isValid := true } := by
  have hn := Vocabulary.checked_consistent hv
  have hdeclared : intent ∈ n.intents := List.count_pos_iff.mp (by omega)
  have hfar : ∀ other ∈ n.intents, other ≠ intent →
      editDistance c.intent intent < editDistance c.intent other :=
    fun other hother hdiffers => editDistance_lt_of_apart hdist (hapart other hother hdiffers)
  have hunknown : lowercase c.intent ∉ n.intents := by
    apply unknown_of_editDistance_pos
    intro other hother
    by_cases hsame : other = intent
    · rw [hsame]
      omega
    · exact Nat.zero_lt_of_lt (hfar other hother hsame)
  have hinvalid : n.validateCommand c ≠ .ok () := by
    rw [ne_eq, Vocabulary.validateCommand_eq_ok_iff]
    exact fun hvalid => hunknown hvalid.2.1
  have hblank : c.isBlank = false := by simp [Command.isBlank, hne]
  have hinPlace : ¬ n.ArgumentsMisplaced c :=
    Vocabulary.not_argumentsMisplaced hne htarget hplain
  have hnoSynonym : ¬ n.IntentIsSynonym c := Vocabulary.not_intentIsSynonym hsynonym
  have hnear : nearestEntries c.intent n.intents maxEdits = [measured c.intent intent] :=
    nearestEntries_eq_singleton hne honce (by omega) (by unfold maxEdits; omega) hfar
  obtain ⟨explanation, hcorrect⟩ := Strategy.correctTypos_eq_single hn hunknown hnear hdeclared
    htarget (Strategy.targetMatches?_eq_none hknown)
  have hchain := standard_chain_of_typo hn hinvalid hinPlace hnoSynonym hcorrect
  refine ⟨.ofProposal c .typoCorrection (.single { c with intent := intent, isValid := true }
    (Confidence.ofEdits (editDistance c.intent intent)) explanation), ?_, rfl, rfl, rfl, ?_, rfl⟩
  · rw [repairWithDecision_eq hblank hmark, hchain, action_of_single]
  · show Confidence.ofEdits (editDistance c.intent intent) = _
    rw [hdist]
    rcases hd with rfl | rfl <;> rfl

/-- Decoding at an intent of the built-in vocabulary with two letters out of order, and a
target that it does not know. -/
theorem unique_intent_typo_corrected_imprvoe :
    let c := Command.ofParts "mender imprvoe kernel" "imprvoe" "kernel" ∅
    (Vocabulary.builtIn.checked = .ok Vocabulary.builtIn ∧
      Vocabulary.builtIn.intents.count "improve" = 1 ∧ c.intent ≠ "" ∧
      editDistance c.intent "improve" = 2 ∧
      (∀ other ∈ Vocabulary.builtIn.intents, other ≠ "improve" →
        2 * 2 + 1 ≤ editDistance "improve" other) ∧
      Vocabulary.builtIn.synonyms.get? (lowercase c.intent) = none ∧ c.isValid = false ∧
      c.target ≠ "" ∧ lowercase c.target ∉ Vocabulary.builtIn.intents ∧
      ∀ t ∈ Vocabulary.builtIn.targets, 2 < editDistance c.target t) ∧
    ∃ r, repairWithDecision Vocabulary.builtIn Strategy.all c = .ok ⟨r, .autoCorrect⟩ ∧
      r.submitted = c ∧ r.finding = some (.strategy .typoCorrection) ∧ r.candidates = [] ∧
      r.confidence = (if 2 = 1 then Confidence.hundredths 95 else Confidence.hundredths 85) ∧
      r.repaired = some { c with intent := "improve", isValid := true } := by
  intro c
  have honce : Vocabulary.builtIn.intents.count "improve" = 1 := by decide +kernel
  have hne : c.intent ≠ "" := by decide +kernel
  have hdist : editDistance c.intent "improve" = 2 := by decide +kernel
  have hapart : ∀ other ∈ Vocabulary.builtIn.intents, other ≠ "improve" →
      2 * 2 + 1 ≤ editDistance "improve" other := by decide +kernel
  have hsynonym : Vocabulary.builtIn.synonyms.get? (lowercase c.intent) = none := by
    decide +kernel
  have htarget : c.target ≠ "" := by decide +kernel
  have hplain : lowercase c.target ∉ Vocabulary.builtIn.intents := by decide +kernel
  have hfar : ∀ t ∈ Vocabulary.builtIn.targets, 2 < editDistance c.target t := by decide +kernel
  exact ⟨⟨Vocabulary.builtIn_checked, honce, hne, hdist, hapart, hsynonym, rfl, htarget, hplain,
    hfar⟩, unique_intent_typo_corrected Vocabulary.builtIn_checked honce (Or.inr rfl) hne hdist
      hapart hsynonym rfl htarget hplain (Or.inr hfar)⟩

end Emend
