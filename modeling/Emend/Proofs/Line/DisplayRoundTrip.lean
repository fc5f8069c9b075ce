import Emend.Proofs.Line.TokenGrammar
import Emend.Proofs.Modifiers
import Emend.Proofs.Text.LowerCase
import Emend.Proofs.Vocabulary

/-!
# Reading what was typed

A command that is typed after the name of the program is read back, unless it could never have
been read.  The commands that can be read are the *typeable* ones: intent and target are words
in lower case, the target perhaps empty, and every modifier can be typed (`Command.IsTypeable`).
A typeable command is typed as its words with a blank before each (`typed_commandWords`), so the
words of the line are these again, and they are taken apart as they were put together: the
first modifier begins with a dash and is no target.
-/

namespace Emend

/-- A command that can be typed. -/
@[mk_iff]
structure Command.IsTypeable (c : Command) : Prop where
  intent_ne : c.intent ≠ ""
  intent_word : Line.isWord c.intent.toList = true
  intent_lower : lowercase c.intent = c.intent
  target_word : Line.isWord c.target.toList = true
  target_lower : lowercase c.target = c.target
  modifiers : ∀ e ∈ c.modifiers.entries, Modifiers.IsModifier e.1.toList e.2.toList

instance (c : Command) : Decidable c.IsTypeable := decidable_of_iff' _ (Command.isTypeable_iff c)

/-- The mark has no part in what is typed. -/
theorem Command.IsTypeable.withValidity {c : Command} (h : c.IsTypeable) (isValid : Bool) :
    (c.withValidity isValid).IsTypeable :=
  ⟨h.intent_ne, h.intent_word, h.intent_lower, h.target_word, h.target_lower, h.modifiers⟩

namespace Line

/-! ## Typing words -/

/-- Words with a blank before each. -/
def typed (ws : List (List Char)) : List Char := ws.flatMap fun w => ' ' :: w

theorem typed_cons (w : List Char) (ws : List (List Char)) :
    typed (w :: ws) = ' ' :: (w ++ typed ws) := rfl

section

variable {ws : List (List Char)} (h : ∀ w ∈ ws, w ≠ [] ∧ ∀ c ∈ w, isBlank c = false)

include h

/-- The words that are typed with blanks between them are found again. -/
theorem words_typed : words (typed ws) = ws := by
  induction ws with
  | nil => rfl
  | cons w ws ih =>
      obtain ⟨⟨hne, hplain⟩, hrest⟩ := List.forall_mem_cons.mp h
      have hboundary : AtBoundary (typed ws) := by
        cases ws with
        | nil => exact atBoundary_nil
        | cons next ws => exact atBoundary_cons.mpr (by decide)
      rw [typed_cons, words_cons_blank (by decide), words_append hne hplain hboundary, ih hrest]

/-- Typed words end as the last of them does. -/
theorem isBlank_getLast_typed {front : List Char}
    (hfront : ∀ c ∈ front.getLast?, isBlank c = false) :
    ∀ c ∈ (front ++ typed ws).getLast?, isBlank c = false := by
  induction ws generalizing front with
  | nil => simpa [typed] using hfront
  | cons w ws ih =>
      obtain ⟨⟨hne, hplain⟩, hrest⟩ := List.forall_mem_cons.mp h
      have hstep : front ++ typed (w :: ws) = (front ++ [' '] ++ w) ++ typed ws := by
        simp [typed_cons]
      rw [hstep]
      apply ih hrest
      intro c hc
      rw [List.getLast?_append_of_ne_nil _ hne] at hc
      exact hplain c (List.mem_of_getLast? hc)

end

/-! ## The words of a command -/

/-- The words that a command is typed as. -/
def commandWords (c : Command) : List (List Char) :=
  c.intent.toList :: ((if c.target = "" then [] else [c.target.toList]) ++
    c.modifiers.entries.map Modifiers.modifierWord)

/-- The modifiers are displayed one after another, as words. -/
theorem toList_foldl_modifierText (l : List (String × String)) (s : String) :
    (l.foldl (fun line e => line ++ " " ++ Command.modifierText e) s).toList =
      s.toList ++ typed (l.map Modifiers.modifierWord) := by
  induction l generalizing s with
  | nil => simp [typed]
  | cons e l ih =>
      rw [List.foldl_cons, ih, List.map_cons, typed_cons]
      simp [Modifiers.modifierWord]

/-- A command is typed as its words. -/
theorem typed_commandWords (c : Command) : typed (commandWords c) = ' ' :: c.display.toList := by
  rw [Command.display, toList_foldl_modifierText, commandWords, typed_cons]
  by_cases htarget : c.target = ""
  · simp [htarget, Command.hasTarget]
  · simp [htarget, Command.hasTarget, typed_cons]

/-- Among word characters there is no blank. -/
theorem word_plain {w : List Char} (h : isWord w = true) : ∀ c ∈ w, isBlank c = false := by
  intro c hc
  exact isBlank_of_isWordChar (List.all_eq_true.mp h c hc)

/-- The words of a command that can be typed are not empty and have no blanks. -/
theorem mem_commandWords {c : Command} (h : c.IsTypeable) :
    ∀ w ∈ commandWords c, w ≠ [] ∧ ∀ d ∈ w, isBlank d = false := by
  intro w hw
  rcases List.mem_cons.mp hw with rfl | hw
  · exact ⟨by simpa using h.intent_ne, word_plain h.intent_word⟩
  · rcases List.mem_append.mp hw with hw | hw
    · by_cases htarget : c.target = ""
      · rw [if_pos htarget] at hw
        cases hw
      · rw [if_neg htarget, List.mem_singleton] at hw
        subst hw
        exact ⟨by simpa using htarget, word_plain h.target_word⟩
    · obtain ⟨e, he, rfl⟩ := List.mem_map.mp hw
      exact ⟨Modifiers.modifierWord_ne_nil e, Modifiers.modifierWord_plain (h.modifiers e he)⟩

/-- A word with a dash cannot be taken for an intent or a target. -/
theorem isWord_of_isDashed {word : List Char} (h : Modifiers.isDashed word = true) :
    isWord word = false := by
  obtain ⟨cs, rfl⟩ := List.head?_eq_some_iff.mp (of_decide_eq_true h)
  have hdash : isWordChar '-' = false := by decide
  simp [isWord, hdash]

/-- The words of a command are taken apart as they were put together. -/
theorem ofWords?_commandWords {c : Command} (h : c.IsTypeable) :
    ofWords? (commandWords c) = some ⟨c.intent.toList, c.target.toList,
      c.modifiers.entries.map Modifiers.modifierWord⟩ := by
  by_cases htarget : c.target = ""
  · rw [commandWords, if_pos htarget, List.nil_append, htarget]
    apply ofWords?_of_no_target h.intent_word
    intro w hw
    obtain ⟨e, -, rfl⟩ := List.mem_map.mp (List.mem_of_head? hw)
    exact isWord_of_isDashed (Modifiers.isDashed_modifierWord e)
  · rw [commandWords, if_neg htarget]
    exact ofWords?_of_target h.intent_word h.target_word

/-! ## Reading back -/

/-- A typeable command is not blank. -/
theorem exists_mem_display {c : Command} (h : c.IsTypeable) :
    ∃ d ∈ c.display.toList, isBlank d = false := by
  have hne : c.intent.toList ≠ [] := by simpa using h.intent_ne
  obtain ⟨d, hd⟩ := List.exists_mem_of_ne_nil _ hne
  refine ⟨d, ?_, word_plain h.intent_word d hd⟩
  have hdisplay := List.cons.inj (typed_commandWords c)
  rw [← hdisplay.2]
  exact List.mem_append_left _ hd

/-- A displayed command that is given to the program as its argument is the line of its words. -/
theorem toList_ofArguments_display (name : String) {c : Command} (h : c.IsTypeable) :
    (ofArguments name [c.display]).toList = name.toList ++ typed (commandWords c) := by
  obtain ⟨d, hd, hplain⟩ := exists_mem_display h
  have hblank : isBlankText (" ".intercalate [c.display]) = false :=
    isBlankText_eq_false (by simpa using hd) hplain
  rw [ofArguments, hblank, typed_commandWords]
  simp

/-- Typed after the name of the program, the words of a command make a token line: there are no
blanks around it to be trimmed, as the name has none at either end. -/
theorem isTokenLine_display {v : Vocabulary} (hv : v.Consistent) (hname : v.programName ≠ "")
    {c : Command} (h : c.IsTypeable) :
    IsTokenLine v.programName.toList (trim (ofArguments v.programName [c.display]).toList)
      c.intent.toList (commandWords c).tail := by
  have hne : v.programName.toList ≠ [] := by simpa using hname
  obtain ⟨text, htext⟩ := hv.program_trimmed
  have hhead : ∀ d ∈ v.programName.toList.head?, isBlank d = false := by
    rw [htext]
    exact isBlank_head_trim text
  have hlast : ∀ d ∈ v.programName.toList.getLast?, isBlank d = false := by
    rw [htext]
    exact isBlank_getLast_trim text
  have htrim : trim (ofArguments v.programName [c.display]).toList =
      v.programName.toList ++ typed (commandWords c) := by
    rw [toList_ofArguments_display v.programName h]
    apply trim_eq_self
    · rwa [List.head?_append_of_ne_nil _ hne]
    · exact isBlank_getLast_typed (mem_commandWords h) hlast
  have hwords : words (typed (commandWords c)) = commandWords c :=
    words_typed (mem_commandWords h)
  exact ⟨_, _, htrim, List.forall₂_same.mpr (fun _ _ => rfl), ⟨' ', rfl, by decide⟩, hwords,
    h.intent_word⟩

/-- **A typeable command is read back.** -/
theorem read_ofArguments_display {v : Vocabulary} (hv : v.Consistent) (hname : v.programName ≠ "")
    {c : Command} (h : c.IsTypeable) :
    read v (ofArguments v.programName [c.display]) =
      .ok (judged v (.ofParts (ofArguments v.programName [c.display]) c.intent c.target
        c.modifiers)) := by
  have hsplit := split?_of_isTokenLine (isTokenLine_display hv hname h)
  have hwords : c.intent.toList :: (commandWords c).tail = commandWords c := rfl
  rw [hwords, ofWords?_commandWords h] at hsplit
  obtain ⟨d, hd, hplain⟩ := exists_mem_display h
  have hblank : isBlankText (ofArguments v.programName [c.display]) = false := by
    apply isBlankText_eq_false _ hplain
    rw [toList_ofArguments_display v.programName h, typed_commandWords]
    exact List.mem_append_right _ (List.mem_cons_of_mem _ hd)
  rw [read_of_split?_eq_some hblank hsplit, Parts.command]
  simp only [String.ofList_toList, h.intent_lower, h.target_lower]
  rw [Modifiers.collect_modifierWord h.modifiers]

/-! ## What was read -/

/-- The parts of a line come from its words, and its intent and target consist of word characters.
-/
theorem ofWords?_facts {ws : List (List Char)} {parts : Parts} (h : ofWords? ws = some parts) :
    parts.intent ∈ ws ∧ isWord parts.intent = true ∧ isWord parts.target = true ∧
      ∀ w ∈ parts.modifiers, w ∈ ws := by
  cases ws with
  | nil => cases h
  | cons first others =>
      by_cases hfirst : isWord first = true
      · by_cases hothers : ∀ word ∈ others.head?, isWord word = false
        · rw [ofWords?_of_no_target hfirst hothers, Option.some_inj] at h
          subst h
          exact ⟨List.mem_cons_self, hfirst, rfl, fun w hw => List.mem_cons_of_mem _ hw⟩
        · cases others with
          | nil => simp at hothers
          | cons word tail =>
              have hword : isWord word = true := by simpa using hothers
              rw [ofWords?_of_target hfirst hword, Option.some_inj] at h
              subst h
              exact ⟨List.mem_cons_self, hfirst, hword,
                fun w hw => List.mem_cons_of_mem _ (List.mem_cons_of_mem _ hw)⟩
      · simp [ofWords?, hfirst] at h

/-- The command of a line that is split can be typed. -/
theorem Parts.isTypeable_command {name line : List Char} {parts : Parts}
    (h : split? name line = some parts) (input : String) : (parts.command input).IsTypeable := by
  obtain ⟨first, others, htoken⟩ := exists_isTokenLine h
  rw [split?_of_isTokenLine htoken] at h
  obtain ⟨hintent, hword, htarget, hmodifiers⟩ := ofWords?_facts h
  have hwords : ∀ w ∈ first :: others, w ≠ [] ∧ ∀ d ∈ w, isBlank d = false := htoken.mem_words
  have hne : parts.intent ≠ [] := (hwords _ hintent).1
  exact {
    intent_ne := by simpa [Parts.command, Command.ofParts] using hne
    intent_word := by simpa [Parts.command, Command.ofParts] using isWord_lower hword
    intent_lower := lowercase_lowercase _
    target_word := by simpa [Parts.command, Command.ofParts] using isWord_lower htarget
    target_lower := lowercase_lowercase _
    modifiers :=
      Modifiers.isModifier_of_mem_collect (fun w hw => (hwords w (hmodifiers w hw)).2) }

/-- What is read from a structured line comes from its parts. -/
theorem exists_parts_of_structured {v : Vocabulary} {input : String} {p : ParsedLine}
    (h : read v input = .ok p) (hform : p.form = .structured) :
    ∃ parts, split? v.programName.toList (trim input.toList) = some parts ∧
      p = judged v (parts.command input) := by
  cases hblank : isBlankText input with
  | true => simp [read, hblank] at h
  | false =>
      cases hsplit : split? v.programName.toList (trim input.toList) with
      | none =>
          rw [read_of_split?_eq_none hblank hsplit, Except.ok.injEq] at h
          subst h
          cases hform
      | some parts =>
          rw [read_of_split?_eq_some hblank hsplit, Except.ok.injEq] at h
          exact ⟨parts, rfl, h.symm⟩

/-- The text has no part in the judgement. -/
theorem judged_withRaw (v : Vocabulary) (c : Command) (raw : String) :
    judged v { c with raw := raw } =
      { judged v c with command := { (judged v c).command with raw := raw } } :=
  judged_map (f := fun c => { c with raw := raw }) rfl rfl

/-- **Reading undoes typing.**  Under a vocabulary in order whose program has a name, what is
read from a structured line can be typed; every command that can be typed is read back, and
marked as the grammar says; and so every structured line is read as before, but for its text,
when its command is typed again. -/
theorem read_display {v n : Vocabulary} (hv : v.checked = .ok n) (hname : n.programName ≠ "") :
    (∀ input p, read n input = .ok p → p.form = .structured → p.command.IsTypeable) ∧
      (∀ c : Command, c.IsTypeable →
        ∃ p, read n (ofArguments n.programName [c.display]) = .ok p ∧ p.form = .structured ∧
          p.command.intent = c.intent ∧ p.command.target = c.target ∧
          p.command.modifiers = c.modifiers ∧
          (p.command.isValid = true ↔ n.validateCommand c = .ok ())) ∧
      (∀ input p, read n input = .ok p → p.form = .structured →
        read n (ofArguments n.programName [p.command.display]) =
          .ok { p with
            command := { p.command with
              raw := ofArguments n.programName [p.command.display] } }) := by
  have hn : n.Consistent := Vocabulary.checked_consistent hv
  have htypeable : ∀ input p, read n input = .ok p → p.form = .structured →
      p.command.IsTypeable := by
    intro input p hread hform
    obtain ⟨parts, hsplit, rfl⟩ := exists_parts_of_structured hread hform
    rw [judged_command]
    exact (Parts.isTypeable_command hsplit input).withValidity _
  refine ⟨htypeable, ?_, ?_⟩
  · intro c hc
    refine ⟨_, read_ofArguments_display hn hname hc, judged_form _ _, ?_, ?_, ?_, ?_⟩
    · rw [judged_command]
      rfl
    · rw [judged_command]
      rfl
    · rw [judged_command]
      rfl
    · rw [judged_isValid_iff rfl, judged_grammarError_iff]
      rfl
  · intro input p hread hform
    rw [read_ofArguments_display hn hname (htypeable input p hread hform)]
    obtain ⟨parts, -, rfl⟩ := exists_parts_of_structured hread hform
    rw [← judged_withRaw, judged_command]
    rfl

/-- A key with a dash, an empty value, a flag and values with a dash or a sign are read back. -/
theorem read_display_analyze :
    Vocabulary.builtIn.checked = .ok .builtIn ∧ Vocabulary.builtIn.programName ≠ "" ∧
      ∃ p, read .builtIn "mender analyze ---x= --all --depth=-3 --path=a=b" = .ok p ∧
        p.form = .structured ∧ p.command.intent = "analyze" ∧ p.command.target = "" ∧
        p.command.modifiers =
          .ofList [("all", "true"), ("depth", "-3"), ("-x", ""), ("path", "a=b")] ∧
        p.command.isValid = false := by
  have hname : Vocabulary.builtIn.programName ≠ "" := by decide
  refine ⟨Vocabulary.builtIn_checked, hname, ?_⟩
  obtain ⟨-, hback, -⟩ := read_display Vocabulary.builtIn_checked hname
  obtain ⟨p, hread, hform, hintent, htarget, hmodifiers, hvalid⟩ := hback
    (.ofParts "" "analyze" ""
      (.ofList [("all", "true"), ("depth", "-3"), ("-x", ""), ("path", "a=b")]))
    (by decide +kernel)
  refine ⟨p, ?_, hform, hintent, htarget, hmodifiers, ?_⟩
  · rw [← hread]
    decide +kernel
  · rw [← Bool.not_eq_true, hvalid]
    decide +kernel

end Line

end Emend
