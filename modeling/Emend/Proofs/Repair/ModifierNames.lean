import Emend.Proofs.Modifiers
import Emend.Proofs.Repair.ModifierForm
import Emend.Proofs.Repair.Soundness

/-!
# Modifiers without a name

What is read from a line has a name, for what has none is dropped (`allNamed_read`).  Three of the
strategies carry the modifiers along, so that names are kept there.  Normalization deletes
characters from a key, and a key that has no others becomes the empty one: `names_kept_iff` says
that this is the only way in which a modifier can lose its name, and `modifier_nameless` shows a
typed one that does.
-/

namespace Emend

/-- Modifiers all of which have a name. -/
def Modifiers.AllNamed (modifiers : Dict) : Prop := ∀ key ∈ modifiers.keys, key ≠ ""

namespace Modifiers

/-- A modifier without a name is never read. -/
theorem allNamed_read (tail : String) : AllNamed (read tail) := by
  intro key hkey hempty
  obtain ⟨e, he, rfl⟩ := List.mem_map.mp hkey
  have hplain : ∀ w ∈ words tail.toList, ∀ c ∈ w, isBlank c = false := fun _ hw =>
    (mem_words hw).2
  have hmodifier : IsModifier e.1.toList e.2.toList := isModifier_of_mem_collect hplain e he
  exact hmodifier.key_ne (String.toList_eq_nil_iff.mpr hempty)

/-- A name is lost on the way to the normal form if nothing in it is kept. -/
theorem allNamed_normalized_iff (modifiers : Dict) :
    AllNamed (normalized modifiers) ↔ ∀ key ∈ modifiers.keys, ¬ IsAllMarks key := by
  constructor
  · intro h key hkey hmarks
    exact h _ ((keys_normalized modifiers).mpr ⟨key, hkey, rfl⟩) (normalKey_eq_empty_iff.mpr hmarks)
  · intro h key hkey hempty
    obtain ⟨source, hsource, rfl⟩ := (keys_normalized modifiers).mp hkey
    exact h source hsource (normalKey_eq_empty_iff.mp hempty)

end Modifiers

/-- **When modifiers keep their names.**  All modifiers that are read have one.  And if all
modifiers of a command have a name, then so have those of whatever is proposed for it, under any
vocabulary and by any strategy, except that normalization takes the names that consist of dashes and
underscores. -/
theorem names_kept_iff (v : Vocabulary) (s : Strategy) (c : Command) :
    (∀ tail, Modifiers.AllNamed (Modifiers.read tail)) ∧
      ∀ p, s.attempt v c = some p → Modifiers.AllNamed c.modifiers →
        ∀ d ∈ p.commands, (Modifiers.AllNamed d.modifiers ↔
          (s = .flagNormalization → ∀ key ∈ c.modifiers.keys, ¬ Modifiers.IsAllMarks key)) := by
  refine ⟨Modifiers.allNamed_read, ?_⟩
  intro p h hnamed d hd
  by_cases hs : s = .flagNormalization
  · subst hs
    obtain ⟨explanation, rfl⟩ := Strategy.single_of_flagNormalization h
    obtain rfl := List.mem_singleton.mp hd
    rw [Modifiers.allNamed_normalized_iff]
    exact ⟨fun hkept _ => hkept, fun hkept => hkept rfl⟩
  · have hrepair : IsRepairOf v s c d := (Strategy.attempt_proposes h).isRepairOf d hd
    rw [hrepair.modifiers hs]
    exact iff_of_true hnamed fun hflag => absurd hflag hs

/-- Dashes and underscores around a name are dropped, and it is still a name. -/
theorem names_kept_iff_dry_run :
    let c := Command.ofParts "mender status --__Dry-Run_" "status" ""
      (.ofList [("__Dry-Run_", "true")])
    Modifiers.AllNamed c.modifiers ∧ (∀ key ∈ c.modifiers.keys, ¬ Modifiers.IsAllMarks key) ∧
      ∃ p, Strategy.flagNormalization.attempt .builtIn c = some p ∧
        p.commands.map (·.modifiers.keys) = [["dryrun"]] ∧
        ∀ d ∈ p.commands, Modifiers.AllNamed d.modifiers := by
  intro c
  have hkeys : c.modifiers.keys = ["__Dry-Run_"] := by decide +kernel
  have hnamed : Modifiers.AllNamed c.modifiers := by simp [Modifiers.AllNamed, hkeys]
  have hletters : ∀ key ∈ c.modifiers.keys, ¬ Modifiers.IsAllMarks key := by
    simp [hkeys, Modifiers.IsAllMarks]
  have hproposal : (Strategy.flagNormalization.attempt .builtIn c).map
      (fun p => p.commands.map (·.modifiers.keys)) = some [["dryrun"]] := by
    decide +kernel
  obtain ⟨p, hp, hcommands⟩ := Option.map_eq_some_iff.mp hproposal
  refine ⟨hnamed, hletters, p, hp, hcommands, ?_⟩
  intro d hd
  exact ((names_kept_iff _ _ c).2 p hp hnamed d hd).mpr fun _ => hletters

/-- A flag that is typed as an underscore.  It has a name when it is read and none when it is
normalized, and where the command is typed again nothing is left of it. -/
theorem modifier_nameless :
    let c := Command.ofParts "mender status project _" "status" "project" (Modifiers.read "_")
    c.modifiers.entries = [("_", "true")] ∧ Modifiers.AllNamed c.modifiers ∧
      ∃ p, Strategy.flagNormalization.attempt .builtIn c = some p ∧
        ∃ d level explanation, p = .single d level explanation ∧
          d.modifiers.entries = [("", "true")] ∧ ¬ Modifiers.AllNamed d.modifiers ∧
          d.display = "status project --" ∧ (Modifiers.read "--").entries = [] := by
  intro c
  have hsome : (Strategy.flagNormalization.attempt .builtIn c).isSome = true := by decide +kernel
  obtain ⟨p, hp⟩ := Option.isSome_iff_exists.mp hsome
  obtain ⟨explanation, hsingle⟩ := Strategy.single_of_flagNormalization hp
  have hentries : (Modifiers.normalized c.modifiers).entries = [("", "true")] := by decide +kernel
  refine ⟨by decide +kernel, Modifiers.allNamed_read "_", p, hp, _, _, explanation, hsingle,
    hentries, ?_, by decide +kernel, by decide +kernel⟩
  intro hnamed
  exact hnamed "" (by simp [Dict.keys, hentries]) rfl

end Emend
