import Emend.Text.Blank
import Mathlib.Data.List.DropRight

/-!
# Words and trimming

Where the words of a text begin and end.  A text either starts with a blank, which belongs to
no word (`words_cons_blank`), or with a word that reaches up to the next blank
(`words_append`).  Every word is nonempty and free of blanks (`mem_words`), and a text of
blanks has none.  A trimmed text has no blank at either end, and a text without blanks at
its ends is trimmed already (`trim_eq_self`).

Where a blank stands, a text can be cut without cutting a word (`words_append_boundary`), and
trimming the whole leaves the first part as it is when it is trimmed alone (`exists_trim_append`).
-/

namespace Emend

/-- A text that is empty or starts with a blank: where a word ends. -/
def AtBoundary (cs : List Char) : Prop := ∀ c ∈ cs.head?, isBlank c = true

theorem atBoundary_nil : AtBoundary [] := by
  intro c hc
  cases hc

/-- Before a blank there is a boundary, and before another character there is none. -/
theorem atBoundary_cons {c : Char} {cs : List Char} :
    AtBoundary (c :: cs) ↔ isBlank c = true := by
  simp [AtBoundary]

/-! ## Words -/

/-- A word that is not empty is put in front. -/
theorem consWord_of_ne {w : List Char} (h : w ≠ []) (ws : List (List Char)) :
    consWord w ws = w :: ws := if_neg h

@[simp] theorem words_nil : words [] = [] := rfl

/-- A blank in front belongs to no word. -/
theorem words_cons_blank {c : Char} (h : isBlank c = true) (cs : List Char) :
    words (c :: cs) = words cs := by
  simp [words, leadingWord, h, consWord]

/-- The words of a text do not depend on the blanks in front. -/
theorem words_dropWhile_blank (cs : List Char) : words (cs.dropWhile isBlank) = words cs := by
  induction cs with
  | nil => rfl
  | cons c cs ih =>
      by_cases h : isBlank c = true
      · rw [List.dropWhile_cons_of_pos h, ih, words_cons_blank h]
      · rw [List.dropWhile_cons_of_neg h]

/-- At a boundary the leading word is empty. -/
theorem leadingWord_of_boundary {cs : List Char} (h : AtBoundary cs) :
    leadingWord cs = ([], words cs) := by
  cases cs with
  | nil => rfl
  | cons c cs => simp [words, leadingWord, atBoundary_cons.mp h, consWord]

/-- The leading word goes up to the next boundary. -/
theorem leadingWord_append {w cs : List Char} (hw : ∀ c ∈ w, isBlank c = false)
    (h : AtBoundary cs) : leadingWord (w ++ cs) = (w, words cs) := by
  induction w with
  | nil => exact leadingWord_of_boundary h
  | cons c w ih =>
      have hc : isBlank c = false := hw c List.mem_cons_self
      have htail := ih (fun d hd => hw d (List.mem_cons_of_mem _ hd))
      simp [leadingWord, htail, hc]

/-- **A word in front.**  Characters that are not blank, up to a blank or the end of the text,
are the first word. -/
theorem words_append {w cs : List Char} (hne : w ≠ []) (hw : ∀ c ∈ w, isBlank c = false)
    (h : AtBoundary cs) : words (w ++ cs) = w :: words cs := by
  unfold words
  rw [leadingWord_append hw h]
  exact consWord_of_ne hne _

/-- Every text that does not start with a blank is a word and a rest. -/
theorem exists_word_append {cs : List Char} (hne : cs ≠ []) (h : ¬ AtBoundary cs) :
    ∃ w rest, cs = w ++ rest ∧ w ≠ [] ∧ (∀ c ∈ w, isBlank c = false) ∧ AtBoundary rest := by
  refine ⟨cs.takeWhile (fun c => !isBlank c), cs.dropWhile (fun c => !isBlank c),
    List.takeWhile_append_dropWhile.symm, ?_, ?_, ?_⟩
  · cases cs with
    | nil => exact absurd rfl hne
    | cons c cs =>
        have hc : isBlank c = false := by simpa [AtBoundary] using h
        simp [hc]
  · intro c hc
    simpa using List.mem_takeWhile_imp hc
  · intro c hc
    have hhead := List.head?_dropWhile_not (fun c => !isBlank c) cs
    rw [Option.mem_def.mp hc] at hhead
    simpa using hhead

/-- What is left after blanks are dropped begins with another character. -/
theorem isBlank_head_dropWhile {cs rest : List Char} {c : Char}
    (h : cs.dropWhile isBlank = c :: rest) : isBlank c = false := by
  have hhead := List.head?_dropWhile_not isBlank cs
  simpa [h] using hhead

/-- What is left when the blanks in front are gone starts a word, or is nothing. -/
theorem not_atBoundary_dropWhile {cs : List Char} (hne : cs.dropWhile isBlank ≠ []) :
    ¬ AtBoundary (cs.dropWhile isBlank) := by
  intro h
  cases hcs : cs.dropWhile isBlank with
  | nil => exact hne hcs
  | cons c rest =>
      rw [hcs] at h
      exact absurd (atBoundary_cons.mp h) (by simp [isBlank_head_dropWhile hcs])

/-- Every word is nonempty and free of blanks. -/
theorem mem_words {cs w : List Char} (h : w ∈ words cs) :
    w ≠ [] ∧ ∀ c ∈ w, isBlank c = false := by
  induction hn : cs.length using Nat.strongRecOn generalizing cs with
  | ind n ih =>
      cases cs with
      | nil => cases h
      | cons c cs =>
          subst hn
          by_cases hb : AtBoundary (c :: cs)
          · rw [words_cons_blank (atBoundary_cons.mp hb)] at h
            exact ih cs.length (by simp) h rfl
          · obtain ⟨v, rest, heq, hne, hv, hrest⟩ :=
              exists_word_append (List.cons_ne_nil c cs) hb
            rw [heq, words_append hne hv hrest] at h
            rcases List.mem_cons.mp h with rfl | h
            · exact ⟨hne, hv⟩
            · refine ih rest.length ?_ h rfl
              have hlength := congrArg List.length heq
              have hpos := List.length_pos_iff.mpr hne
              rw [List.length_append] at hlength
              omega

/-! ## Texts that are put together -/

/-- A word is put in front of the first of two lists. -/
theorem consWord_append (w : List Char) (ws vs : List (List Char)) :
    consWord w (ws ++ vs) = consWord w ws ++ vs := by
  unfold consWord
  split <;> rfl

/-- What is added at a boundary does not change the leading word. -/
theorem leadingWord_append_boundary (xs : List Char) {ys : List Char} (h : AtBoundary ys) :
    leadingWord (xs ++ ys) = ((leadingWord xs).1, (leadingWord xs).2 ++ words ys) := by
  induction xs with
  | nil => exact leadingWord_of_boundary h
  | cons c xs ih =>
      simp only [List.cons_append, leadingWord, ih, consWord_append]
      split <;> rfl

/-- What starts with a blank brings its own words. -/
theorem words_append_boundary (xs : List Char) {ys : List Char} (h : AtBoundary ys) :
    words (xs ++ ys) = words xs ++ words ys := by
  simp only [words, leadingWord_append_boundary xs h, consWord_append]

section

variable {blanks : List Char} (h : ∀ c ∈ blanks, isBlank c = true)

include h

/-- Blanks in front do not change the words. -/
theorem words_blanks_append (cs : List Char) : words (blanks ++ cs) = words cs := by
  induction blanks with
  | nil => rfl
  | cons b blanks ih =>
      obtain ⟨hb, hrest⟩ := List.forall_mem_cons.mp h
      rw [List.cons_append, words_cons_blank hb, ih hrest]

/-- Blanks make a boundary. -/
theorem atBoundary_blanks_append {cs : List Char} (hcs : blanks ≠ [] ∨ AtBoundary cs) :
    AtBoundary (blanks ++ cs) := by
  cases blanks with
  | nil => exact hcs.resolve_left (by simp)
  | cons b blanks => exact atBoundary_cons.mpr (h b List.mem_cons_self)

end

/-- A text after blanks starts with a blank and has its own words. -/
theorem words_after_blanks {blanks : String} (hne : blanks ≠ "")
    (h : isBlankText blanks = true) (s : String) :
    AtBoundary (blanks ++ s).toList ∧ words (blanks ++ s).toList = words s.toList := by
  have hall : ∀ c ∈ blanks.toList, isBlank c = true := List.all_eq_true.mp h
  rw [String.toList_append]
  exact ⟨atBoundary_blanks_append hall (Or.inl (by simpa using hne)), words_blanks_append hall _⟩

/-! ## Trimming -/

theorem trimEnd_eq (cs : List Char) : trimEnd cs = cs.rdropWhile isBlank := rfl

/-- A trimmed text does not begin with a blank. -/
theorem isBlank_head_trim (cs : List Char) : ∀ c ∈ (trim cs).head?, isBlank c = false := by
  intro c hc
  have hprefix : trim cs <+: cs.dropWhile isBlank := List.rdropWhile_prefix _ _
  obtain ⟨tail, htail⟩ := hprefix
  obtain ⟨rest, hrest⟩ := List.head?_eq_some_iff.mp hc
  rw [hrest] at htail
  exact isBlank_head_dropWhile htail.symm

theorem isBlank_getLast_trim (cs : List Char) : ∀ c ∈ (trim cs).getLast?, isBlank c = false := by
  intro c hc
  obtain ⟨hne, hlast⟩ := List.mem_getLast?_eq_getLast hc
  rw [hlast]
  exact Bool.eq_false_iff.mpr (List.rdropWhile_last_not isBlank (trimStart cs) hne)

/-- A text that does not begin with a blank has nothing to trim in front. -/
theorem trimStart_eq_self {cs : List Char} (h : ∀ c ∈ cs.head?, isBlank c = false) :
    trimStart cs = cs := by
  cases cs with
  | nil => rfl
  | cons c cs => exact List.dropWhile_cons_of_neg (by simp [h c rfl])

/-- A text without blanks at its ends is trimmed. -/
theorem trim_eq_self {cs : List Char} (hfirst : ∀ c ∈ cs.head?, isBlank c = false)
    (hlast : ∀ c ∈ cs.getLast?, isBlank c = false) : trim cs = cs := by
  unfold trim
  rw [trimStart_eq_self hfirst, trimEnd_eq, List.rdropWhile_eq_self_iff]
  intro hne
  simp [hlast _ (List.getLast?_eq_some_getLast hne)]

/-- Trimming leaves nothing of a text of blanks, and of no other. -/
theorem trim_eq_nil_iff {cs : List Char} : trim cs = [] ↔ ∀ c ∈ cs, isBlank c = true := by
  constructor
  · intro h
    have hstart : ∀ c ∈ cs.dropWhile isBlank, isBlank c = true :=
      List.rdropWhile_eq_nil_iff.mp h
    intro c hc
    rw [← List.takeWhile_append_dropWhile (p := isBlank) (l := cs)] at hc
    rcases List.mem_append.mp hc with hc | hc
    · exact List.mem_takeWhile_imp hc
    · exact hstart c hc
  · intro h
    have hstart : trimStart cs = [] := List.dropWhile_eq_nil_iff.mpr h
    rw [trim, hstart]
    rfl

/-- Trimming the end leaves a prefix. -/
theorem trimEnd_prefix (cs : List Char) : trimEnd cs <+: cs := List.rdropWhile_prefix _ _

/-- The words of a text do not depend on the blanks at its end. -/
theorem words_trimEnd (cs : List Char) : words (trimEnd cs) = words cs := by
  simp only [trimEnd_eq]
  induction cs using List.reverseRecOn with
  | nil => rfl
  | append_singleton cs c ih =>
      by_cases hc : isBlank c = true
      · rw [List.rdropWhile_concat_pos _ _ _ hc, ih,
          words_append_boundary cs (atBoundary_cons.mpr hc), words_cons_blank hc, words_nil,
          List.append_nil]
      · rw [List.rdropWhile_concat_neg _ _ _ hc]

/-- What follows a text that ends with no blank is trimmed on its own. -/
theorem trimEnd_append {xs : List Char} (h : ∀ c ∈ xs.getLast?, isBlank c = false)
    (ys : List Char) : trimEnd (xs ++ ys) = xs ++ trimEnd ys := by
  simp only [trimEnd_eq]
  induction ys using List.reverseRecOn with
  | nil =>
      rw [List.append_nil, List.rdropWhile_nil, List.append_nil, List.rdropWhile_eq_self_iff]
      intro hne
      simp [h _ (List.getLast?_eq_some_getLast hne)]
  | append_singleton ys c ih =>
      rw [← List.append_assoc]
      by_cases hc : isBlank c = true
      · rw [List.rdropWhile_concat_pos _ _ _ hc, List.rdropWhile_concat_pos _ _ _ hc, ih]
      · rw [List.rdropWhile_concat_neg _ _ _ hc, List.rdropWhile_concat_neg _ _ _ hc,
          List.append_assoc]

/-- What is trimmed at the end are blanks. -/
theorem exists_trimStart_eq (cs : List Char) :
    ∃ blanks, (∀ c ∈ blanks, isBlank c = true) ∧ trimStart cs = trim cs ++ blanks :=
  ⟨(trimStart cs).rtakeWhile isBlank, fun _ => List.mem_rtakeWhile_imp,
    List.rdropWhile_append_rtakeWhile.symm⟩

/-- A text that is not blank is trimmed in front as before, whatever follows it. -/
theorem trimStart_append {xs : List Char} (hxs : trim xs ≠ []) (ys : List Char) :
    trimStart (xs ++ ys) = trimStart xs ++ ys := by
  have hne : xs.dropWhile isBlank ≠ [] := by
    intro hnil
    rw [trim, trimStart, hnil] at hxs
    exact hxs rfl
  rw [trimStart, List.dropWhile_append, List.isEmpty_eq_false_iff.mpr hne]
  rfl

/-- **Trimming a text that is put together.**  If the first part is not blank and the second starts
with a blank, the first part comes out as it does on its own, and what follows starts with a blank
and has the words of the second part. -/
theorem exists_trim_append {xs ys : List Char} (hxs : trim xs ≠ []) (hys : AtBoundary ys) :
    ∃ rest, trim (xs ++ ys) = trim xs ++ rest ∧ AtBoundary rest ∧ words rest = words ys := by
  obtain ⟨blanks, hblanks, hstart⟩ := exists_trimStart_eq xs
  refine ⟨trimEnd (blanks ++ ys), ?_, ?_, ?_⟩
  · rw [trim, trimStart_append hxs, hstart, List.append_assoc,
      trimEnd_append (isBlank_getLast_trim xs)]
  · intro c hc
    obtain ⟨tail, htail⟩ := trimEnd_prefix (blanks ++ ys)
    apply atBoundary_blanks_append hblanks (Or.inr hys)
    rw [← htail, List.head?_append, Option.mem_def.mp hc]
    rfl
  · rw [words_trimEnd, words_blanks_append hblanks]

/-- One character that is not blank is enough for a text not to be blank. -/
theorem isBlankText_eq_false {s : String} {c : Char} (hc : c ∈ s.toList)
    (h : isBlank c = false) : isBlankText s = false := by
  unfold isBlankText
  rw [List.all_eq_false]
  exact ⟨c, hc, by simp [h]⟩

end Emend
