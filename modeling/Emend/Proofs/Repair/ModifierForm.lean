import Emend.Proofs.Modifiers.NormalForm
import Emend.Proofs.Vocabulary
import Emend.Repair.Result

/-!
# What normalization does to a command

The strategy that brings modifiers to their normal form proposes one command, and it has nothing more
to say about that command (`normalization_final`).  What it says of the modifiers themselves can be
too much: it reports a change for every one, but of those whose keys have the same normal form only
the last is still there.  `modifiers_kept_iff` says what is kept and when that is all, and
`modifier_lost` shows a command of which a modifier is lost.
-/

namespace Emend

namespace Strategy

variable {v : Vocabulary} {c : Command} {p : Proposal}

/-- Where all modifiers are in form, nothing is proposed. -/
theorem flagNormalization_of_regular (h : Modifiers.irregular c.modifiers = []) :
    flagNormalization.attempt v c = none := by
  rw [attempt, normalizeModifiers, h]

/-- The proposal is the command with its modifiers in their normal form. -/
theorem single_of_flagNormalization (h : flagNormalization.attempt v c = some p) :
    ∃ explanation, p = .single
      { c with modifiers := Modifiers.normalized c.modifiers, isValid := true }
      (Confidence.hundredths 98) explanation := by
  rw [attempt, normalizeModifiers] at h
  split at h
  · cases h
  · obtain ⟨d, happroved, rfl⟩ := Option.map_eq_some_iff.mp h
    obtain ⟨-, rfl⟩ := Vocabulary.approve_eq_some_iff.mp happroved
    exact ⟨_, rfl⟩

end Strategy

/-! ## A second round -/

/-- **A normal form is final.**  Normal forms of keys and values are their own, and a key or a value is
its own normal form exactly if there is nothing to normalize in it.  Whatever command is proposed
under whatever vocabulary, all its keys and values are normal, and the strategy does not apply to it
again. -/
theorem normalization_final :
    (∀ key, Modifiers.normalKey (Modifiers.normalKey key) = Modifiers.normalKey key ∧
      (Modifiers.normalKey key = key ↔ Modifiers.IsNormalKey key)) ∧
    (∀ value, Modifiers.normalValue (Modifiers.normalValue value) = Modifiers.normalValue value ∧
      (Modifiers.normalValue value = value ↔ Modifiers.IsNormalValue value)) ∧
    ∀ (v : Vocabulary) (c : Command) (p : Proposal),
      Strategy.flagNormalization.attempt v c = some p →
      ∃ d level explanation, p = .single d level explanation ∧
        Strategy.flagNormalization.attempt v d = none ∧
        (∀ e ∈ d.modifiers.entries,
          Modifiers.normalKey e.1 = e.1 ∧ Modifiers.normalValue e.2 = e.2) ∧
        Modifiers.normalized d.modifiers = d.modifiers := by
  refine ⟨fun key => ⟨Modifiers.normalKey_normalKey key, Modifiers.normalKey_eq_self_iff⟩,
    fun value => ⟨Modifiers.normalValue_normalValue value, Modifiers.normalValue_eq_self_iff⟩, ?_⟩
  intro v c p h
  obtain ⟨explanation, hp⟩ := Strategy.single_of_flagNormalization h
  have hregular := Modifiers.irregular_normalized c.modifiers
  refine ⟨_, _, explanation, hp, Strategy.flagNormalization_of_regular hregular, ?_,
    Modifiers.normalized_normalized c.modifiers⟩
  intro e he
  obtain ⟨hkey, hvalue⟩ := Modifiers.irregular_eq_nil_iff.mp hregular e he
  exact ⟨hkey.normalKey_eq, hvalue.normalValue_eq⟩

/-- A key that is longer in lower case, an empty value, and a value that only looks like a truth
value. -/
theorem normalization_final_dry_run :
    let c := Command.ofParts "mender status" "status" ""
      (.ofList [("--Dry_Run", ""), ("İ-D", "FALSE"), ("depth", "Yes")])
    ∃ p, Strategy.flagNormalization.attempt .builtIn c = some p ∧
      ∃ d level explanation, p = .single d level explanation ∧
        d.modifiers.entries = [("depth", "Yes"), ("dryrun", "true"), ("i\u0307d", "false")] ∧
        Strategy.flagNormalization.attempt .builtIn d = none ∧
        (∀ e ∈ d.modifiers.entries,
          Modifiers.normalKey e.1 = e.1 ∧ Modifiers.normalValue e.2 = e.2) ∧
        Modifiers.normalized d.modifiers = d.modifiers := by
  intro c
  have hmodifiers : (Strategy.flagNormalization.attempt .builtIn c).map
      (fun p => p.commands.map (·.modifiers.entries)) =
        some [[("depth", "Yes"), ("dryrun", "true"), ("i\u0307d", "false")]] := by
    decide +kernel
  obtain ⟨p, hp, hcommands⟩ := Option.map_eq_some_iff.mp hmodifiers
  obtain ⟨d, level, explanation, hsingle, hfinal⟩ := normalization_final.2.2 .builtIn c p hp
  rw [hsingle] at hcommands
  exact ⟨p, hp, d, level, explanation, hsingle, List.singleton_inj.mp hcommands, hfinal⟩

/-! ## What is kept -/

/-- **What is kept of the modifiers.**  In the proposed command a key has the value of the last modifier
that comes to it, and there are as many modifiers as normal keys.  So each modifier is there with its
own value if and only if those that come to the same key agree, and all of them are kept if and
only if no two keys have the same normal form. -/
theorem modifiers_kept_iff {v : Vocabulary} {c : Command} {p : Proposal}
    (h : Strategy.flagNormalization.attempt v c = some p) :
    ∃ d level explanation, p = .single d level explanation ∧
      (∀ key, d.modifiers.get? key =
        (Modifiers.comingTo c.modifiers key).getLast?.map fun e => Modifiers.normalValue e.2) ∧
      d.modifiers.entries.length = (c.modifiers.keys.map Modifiers.normalKey).dedup.length ∧
      ((∀ e ∈ c.modifiers.entries,
          d.modifiers.get? (Modifiers.normalKey e.1) = some (Modifiers.normalValue e.2)) ↔
        ∀ e ∈ c.modifiers.entries, ∀ f ∈ c.modifiers.entries,
          Modifiers.normalKey e.1 = Modifiers.normalKey f.1 →
            Modifiers.normalValue e.2 = Modifiers.normalValue f.2) ∧
      (Modifiers.KeepsAll d.modifiers c.modifiers ↔
        (c.modifiers.keys.map Modifiers.normalKey).Nodup) := by
  obtain ⟨explanation, hp⟩ := Strategy.single_of_flagNormalization h
  exact ⟨_, _, explanation, hp, Modifiers.get?_normalized c.modifiers,
    Modifiers.length_normalized c.modifiers, Modifiers.values_normalized_iff c.modifiers,
    Modifiers.keepsAll_normalized_iff c.modifiers⟩

/-- Modifiers whose keys stay apart are all kept. -/
theorem modifiers_kept_iff_output_file :
    let c := Command.ofParts "mender status" "status" ""
      (.ofList [("--Output-File", "TRUE"), ("output", ""), ("file", "a_b")])
    (c.modifiers.keys.map Modifiers.normalKey).Nodup ∧
      ∃ p, Strategy.flagNormalization.attempt .builtIn c = some p ∧
        ∃ d level explanation, p = .single d level explanation ∧
          Modifiers.KeepsAll d.modifiers c.modifiers := by
  intro c
  have hnodup : (c.modifiers.keys.map Modifiers.normalKey).Nodup := by decide +kernel
  have hsome : (Strategy.flagNormalization.attempt .builtIn c).isSome = true := by decide +kernel
  obtain ⟨p, hp⟩ := Option.isSome_iff_exists.mp hsome
  obtain ⟨d, level, explanation, hsingle, -, -, -, hkept⟩ := modifiers_kept_iff hp
  exact ⟨hnodup, p, hp, d, level, explanation, hsingle, hkept.mpr hnodup⟩

/-- Two spellings of one key: the value of the first one is nowhere to be found. -/
theorem modifier_lost :
    let c := Command.ofParts "mender status --dry-run=yes --dry_run=no" "status" ""
      (.ofList [("dry-run", "yes"), ("dry_run", "no")])
    ∃ p, Strategy.flagNormalization.attempt .builtIn c = some p ∧
      ∃ d level explanation, p = .single d level explanation ∧
        d.modifiers.entries = [("dryrun", "no")] ∧
        ¬ Modifiers.KeepsAll d.modifiers c.modifiers := by
  intro c
  have hsome : (Strategy.flagNormalization.attempt .builtIn c).isSome = true := by decide +kernel
  have hentries : (Modifiers.normalized c.modifiers).entries = [("dryrun", "no")] := by
    decide +kernel
  obtain ⟨p, hp⟩ := Option.isSome_iff_exists.mp hsome
  obtain ⟨explanation, hsingle⟩ := Strategy.single_of_flagNormalization hp
  refine ⟨p, hp, _, _, explanation, hsingle, hentries, ?_⟩
  intro hkept
  have hapart : (c.modifiers.keys.map Modifiers.normalKey).Nodup :=
    (Modifiers.keepsAll_normalized_iff c.modifiers).mp hkept
  exact absurd hapart (by decide +kernel)

end Emend
