import Emend.Modifiers.Basic
import Mathlib.Data.List.TakeWhile
import Mathlib.Tactic.MkIffOfInductiveProp

/-!
# Reading modifiers and typing them

A modifier can be typed if its key is nonempty and free of blanks and equality signs, and its
value is free of blanks (`IsModifier`).  Only such modifiers are read from words
(`isModifier_of_mem_collect`).  Each of them is read back from the word it is typed as, whatever
modifiers are typed after it (`ofWords_modifierWord`): a flag is always followed by a word with
a dash, which is not its value, and of the dashes of a key only the two that were put before it
are taken away.  Hence a dictionary is read back from the words of its entries
(`collect_modifierWord`).
-/

namespace Emend

namespace Modifiers

/-- A key and a value that can be typed as a modifier. -/
@[mk_iff]
structure IsModifier (key value : List Char) : Prop where
  key_ne : key ≠ []
  key_plain : ∀ c ∈ key, isBlank c = false
  key_unassigned : '=' ∉ key
  value_plain : ∀ c ∈ value, isBlank c = false

instance (key value : List Char) : Decidable (IsModifier key value) :=
  decidable_of_iff
    (key ≠ [] ∧ key.all (fun c => !isBlank c) ∧ '=' ∉ key ∧ value.all (fun c => !isBlank c))
    (by simp [isModifier_iff])

/-- The word that an entry of the modifiers is typed as. -/
def modifierWord (e : String × String) : List Char := (Command.modifierText e).toList

/-! ## Assignments and dashes -/

/-- A word without an equals sign is no assignment. -/
theorem assignment?_eq_none_iff {word : List Char} : assignment? word = none ↔ '=' ∉ word := by
  unfold assignment?
  split
  · next h =>
      rw [List.dropWhile_eq_nil_iff] at h
      refine iff_of_true rfl ?_
      intro hmem
      simpa using h '=' hmem
  · next c value h =>
      refine iff_of_false (by simp) ?_
      rw [not_not]
      have hhead := List.head?_dropWhile_not (fun c => decide (c ≠ '=')) word
      rw [h] at hhead
      have hc : c = '=' := by simpa using hhead
      have hmem : c ∈ word.dropWhile (fun c => decide (c ≠ '=')) := by
        rw [h]
        exact List.mem_cons_self
      exact hc ▸ (List.dropWhile_suffix _).subset hmem

/-- An assignment is cut at its first equals sign. -/
theorem assignment?_append {key : List Char} (h : '=' ∉ key) (value : List Char) :
    assignment? (key ++ '=' :: value) = some (key, value) := by
  have hall : ∀ c ∈ key, decide (c ≠ '=') = true := by
    intro c hc
    exact decide_eq_true (fun heq => h (heq ▸ hc))
  rw [assignment?, List.dropWhile_append_of_pos hall, List.takeWhile_append_of_pos hall]
  simp

/-- An assignment is cut at its first equality sign. -/
theorem eq_of_assignment?_eq_some {word key value : List Char}
    (h : assignment? word = some (key, value)) : word = key ++ '=' :: value ∧ '=' ∉ key := by
  have hmem : '=' ∈ word := by
    by_contra hmem
    rw [assignment?_eq_none_iff.mpr hmem] at h
    cases h
  obtain ⟨key', value', hword, hkey⟩ := List.eq_append_cons_of_mem hmem
  rw [hword, assignment?_append hkey, Option.some_inj, Prod.mk.injEq] at h
  obtain ⟨rfl, rfl⟩ := h
  exact ⟨hword, hkey⟩

/-- Dropping the dashes adds no characters. -/
theorem withoutDashes_subset (word : List Char) : withoutDashes word ⊆ word := by
  unfold withoutDashes
  split
  · exact List.subset_cons_of_subset _ (List.subset_cons_self _ _)
  · exact List.subset_cons_self _ _
  · exact List.Subset.refl _

/-- A flag is typed as its name behind two dashes. -/
theorem modifierWord_of_flag {e : String × String} (h : e.2 = flagTrue) :
    modifierWord e = '-' :: '-' :: e.1.toList := by
  simp [modifierWord, Command.modifierText, h]

/-- Every other modifier is typed as an assignment behind two dashes. -/
theorem modifierWord_of_ne {e : String × String} (h : e.2 ≠ flagTrue) :
    modifierWord e = ('-' :: '-' :: e.1.toList) ++ '=' :: e.2.toList := by
  simp [modifierWord, Command.modifierText, h]

/-- A typed modifier begins with a dash. -/
theorem isDashed_modifierWord (e : String × String) : isDashed (modifierWord e) = true := by
  by_cases h : e.2 = flagTrue
  · rw [modifierWord_of_flag h]
    rfl
  · rw [modifierWord_of_ne h]
    rfl

theorem modifierWord_ne_nil (e : String × String) : modifierWord e ≠ [] := by
  intro h
  have hdashed := isDashed_modifierWord e
  rw [h] at hdashed
  cases hdashed

/-! ## Typing -/

/-- An assignment is read on its own. -/
theorem ofWords_of_assignment {key : List Char} (h : '=' ∉ key) (value : List Char)
    (rest : List (List Char)) :
    ofWords ((key ++ '=' :: value) :: rest) = (withoutDashes key, value) :: ofWords rest := by
  rw [ofWords.eq_def]
  simp [assignment?_append h]

/-- A word with a dash takes no value from a word with a dash. -/
theorem ofWords_of_flag {word : List Char} {rest : List (List Char)} (h : '=' ∉ word)
    (hdashed : isDashed word = true) (hrest : ∀ next ∈ rest.head?, isDashed next = true) :
    ofWords (word :: rest) = (withoutDashes word, flagTrue.toList) :: ofWords rest := by
  cases rest with
  | nil => simp [ofWords, assignment?_eq_none_iff.mpr h, hdashed]
  | cons next rest => simp [ofWords, assignment?_eq_none_iff.mpr h, hdashed, hrest next rfl]

/-- Modifiers are read back from the words they are typed as. -/
theorem ofWords_modifierWord {l : List (String × String)} (h : ∀ e ∈ l, '=' ∉ e.1.toList) :
    ofWords (l.map modifierWord) = l.map (fun e => (e.1.toList, e.2.toList)) := by
  induction l with
  | nil => rfl
  | cons e l ih =>
      have hrest := ih (fun e' he' => h e' (List.mem_cons_of_mem _ he'))
      have hkey : '=' ∉ '-' :: '-' :: e.1.toList := by
        simp [h e List.mem_cons_self]
      rw [List.map_cons, List.map_cons, ← hrest]
      by_cases hflag : e.2 = flagTrue
      · rw [modifierWord_of_flag hflag, hflag, ofWords_of_flag hkey rfl]
        · rfl
        · cases l with
          | nil => simp
          | cons next l => simp [isDashed_modifierWord]
      · rw [modifierWord_of_ne hflag, ofWords_of_assignment hkey]
        rfl

/-- **A dictionary is read back from the words of its entries.** -/
theorem collect_modifierWord {d : Dict}
    (h : ∀ e ∈ d.entries, IsModifier e.1.toList e.2.toList) :
    collect (ofWords (d.entries.map modifierWord)) = d := by
  rw [ofWords_modifierWord (fun e he => (h e he).key_unassigned), collect, List.filter_eq_self.mpr]
  · rw [List.map_map]
    have hid : ∀ e ∈ d.entries, ((fun m : List Char × List Char =>
        (String.ofList m.1, String.ofList m.2)) ∘ fun e => (e.1.toList, e.2.toList)) e = e := by
      intro e _
      simp
    rw [List.map_congr_left hid, List.map_id', Dict.ofList_entries]
  · intro m hm
    obtain ⟨e, he, rfl⟩ := List.mem_map.mp hm
    exact decide_eq_true (h e he).key_ne

/-- A modifier word is free of blanks. -/
theorem modifierWord_plain {e : String × String} (h : IsModifier e.1.toList e.2.toList) :
    ∀ c ∈ modifierWord e, isBlank c = false := by
  have hkey : ∀ c ∈ '-' :: '-' :: e.1.toList, isBlank c = false := by
    simpa using ⟨by decide, h.key_plain⟩
  by_cases hflag : e.2 = flagTrue
  · rw [modifierWord_of_flag hflag]
    exact hkey
  · rw [modifierWord_of_ne hflag]
    intro c hc
    rcases List.mem_append.mp hc with hc | hc
    · exact hkey c hc
    · rcases List.mem_cons.mp hc with rfl | hc
      · decide
      · exact h.value_plain c hc

/-! ## Reading -/

/-- A modifier that is cut out of a word is one that can be read. -/
theorem IsModifier.of_subset {key word value : List Char} (hne : key ≠ []) (hsub : key ⊆ word)
    (hplain : ∀ c ∈ word, isBlank c = false) (hunassigned : '=' ∉ word)
    (hvalue : ∀ c ∈ value, isBlank c = false) : IsModifier key value where
  key_ne := hne
  key_plain := fun c hc => hplain c (hsub hc)
  key_unassigned := fun hmem => hunassigned (hsub hmem)
  value_plain := hvalue

/-- What is read from words can be typed, if it has a key. -/
theorem isModifier_of_mem_ofWords {ws : List (List Char)}
    (hws : ∀ w ∈ ws, ∀ c ∈ w, isBlank c = false) {m : List Char × List Char}
    (hm : m ∈ ofWords ws) (hne : m.1 ≠ []) : IsModifier m.1 m.2 := by
  have hflag : ∀ c ∈ flagTrue.toList, isBlank c = false := by
    have hall : flagTrue.toList.all (fun c => !isBlank c) = true := by decide
    simpa using hall
  fun_induction ofWords ws with
  | case1 => cases hm
  | case2 word rest key value hassign ih =>
      obtain ⟨hword, hkey⟩ := eq_of_assignment?_eq_some hassign
      obtain ⟨hplain, hrest⟩ := List.forall_mem_cons.mp hws
      rw [hword, List.forall_mem_append, List.forall_mem_cons] at hplain
      rcases List.mem_cons.mp hm with rfl | hm
      · exact .of_subset hne (withoutDashes_subset key) hplain.1 hkey hplain.2.2
      · exact ih hrest hm
  | case3 word hassign hdashed =>
      rw [assignment?_eq_none_iff] at hassign
      rw [List.mem_singleton] at hm
      subst hm
      exact .of_subset hne (withoutDashes_subset word) (hws word List.mem_cons_self) hassign hflag
  | case4 word hassign hdashed next rest hnext ih =>
      rw [assignment?_eq_none_iff] at hassign
      obtain ⟨hplain, hrest⟩ := List.forall_mem_cons.mp hws
      rcases List.mem_cons.mp hm with rfl | hm
      · exact .of_subset hne (withoutDashes_subset word) hplain hassign hflag
      · exact ih hrest hm
  | case5 word hassign hdashed value rest hvalue ih =>
      rw [assignment?_eq_none_iff] at hassign
      obtain ⟨hplain, hrest⟩ := List.forall_mem_cons.mp hws
      obtain ⟨hvalue, hrest⟩ := List.forall_mem_cons.mp hrest
      rcases List.mem_cons.mp hm with rfl | hm
      · exact .of_subset hne (withoutDashes_subset word) hplain hassign hvalue
      · exact ih hrest hm
  | case6 word rest hassign hdashed ih =>
      rw [assignment?_eq_none_iff] at hassign
      obtain ⟨hplain, hrest⟩ := List.forall_mem_cons.mp hws
      rcases List.mem_cons.mp hm with rfl | hm
      · exact .of_subset hne (List.Subset.refl word) hplain hassign hflag
      · exact ih hrest hm

/-- **Every modifier that is read can be typed.** -/
theorem isModifier_of_mem_collect {ws : List (List Char)}
    (hws : ∀ w ∈ ws, ∀ c ∈ w, isBlank c = false) :
    ∀ e ∈ (collect (ofWords ws)).entries, IsModifier e.1.toList e.2.toList := by
  intro e he
  rw [collect, ← Dict.get?_eq_some_iff] at he
  obtain ⟨m, hm, heq⟩ := List.mem_map.mp (Dict.mem_of_get?_ofList he)
  obtain ⟨hkey, hvalue⟩ := Prod.mk.inj heq
  obtain ⟨hm, hne⟩ := List.mem_filter.mp hm
  rw [← hkey, ← hvalue, String.toList_ofList, String.toList_ofList]
  exact isModifier_of_mem_ofWords hws hm (of_decide_eq_true hne)

end Modifiers

end Emend
