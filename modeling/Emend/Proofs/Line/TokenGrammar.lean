import Emend.Proofs.Line.Pattern
import Mathlib.Data.List.Forall2

/-!
# The token grammar of typed lines

Which lines are structured can be said without patterns and without a reader: after the name of
the program comes a blank, and the first word after it is made of word characters
(`IsTokenLine`).  `read_token_grammar` says that reading a line accepts exactly these lines,
finds the intent, the target and the modifiers in their words, and holds the command against
the grammar; every other line is kept as natural language.  Reading by the pattern of
`commandPattern` comes to the same on every line (`read_eq_readByPattern`).
-/

namespace Emend

namespace Line

/-! ## Reading in steps -/

/-- A structured line with a command, held against the grammar. -/
def judged (v : Vocabulary) (c : Command) : ParsedLine :=
  match v.validateCommand c with
  | .ok () => ⟨c.withValidity true, .structured, none⟩
  | .error e => ⟨c, .structured, some e⟩

/-- The command that the parts of a line stand for, before it is held against the grammar. -/
def Parts.command (parts : Parts) (input : String) : Command :=
  .ofParts input (lowercase (String.ofList parts.intent)) (lowercase (String.ofList parts.target))
    (Modifiers.collect (Modifiers.ofWords parts.modifiers))

theorem judged_form (v : Vocabulary) (c : Command) : (judged v c).form = .structured := by
  unfold judged
  split <;> rfl

/-- Judging a command sets its mark and nothing else. -/
theorem judged_command (v : Vocabulary) (c : Command) :
    (judged v c).command = c.withValidity (judged v c).command.isValid := by
  unfold judged
  split <;> rfl

/-- The mark is set if the grammar finds no error. -/
theorem judged_isValid_iff {v : Vocabulary} {c : Command} (hmark : c.isValid = false) :
    (judged v c).command.isValid = true ↔ (judged v c).grammarError = none := by
  unfold judged
  split
  · simp [Command.withValidity]
  · simp [hmark]

/-- There is no error if the command is grammatical. -/
theorem judged_grammarError_iff (v : Vocabulary) (c : Command) :
    (judged v c).grammarError = none ↔ v.validateCommand c = .ok () := by
  unfold judged
  split
  · next hvalid => simp [hvalid]
  · next hvalid => simp [hvalid]

/-- A change that the grammar does not see can be made before a command is judged or after. -/
theorem judged_map {v : Vocabulary} {f : Command → Command} {c : Command}
    (hvalid : v.validateCommand (f c) = v.validateCommand c)
    (hmark : (f c).withValidity true = f (c.withValidity true)) :
    judged v (f c) = { judged v c with command := f (judged v c).command } := by
  unfold judged
  rw [hvalid]
  split
  · rw [hmark]
  · rfl

/-- A line that does not split into the parts of a command is natural language. -/
theorem read_of_split?_eq_none {v : Vocabulary} {input : String}
    (hblank : isBlankText input = false)
    (h : split? v.programName.toList (trim input.toList) = none) :
    read v input = .ok ⟨.ofRaw input, .naturalLanguage, none⟩ := by
  simp [read, hblank, h]

/-- A line that does is judged as the command of its parts. -/
theorem read_of_split?_eq_some {v : Vocabulary} {input : String} {parts : Parts}
    (hblank : isBlankText input = false)
    (h : split? v.programName.toList (trim input.toList) = some parts) :
    read v input = .ok (judged v (parts.command input)) := by
  unfold read judged
  rw [hblank, h]
  have hcommand : Command.ofParts input (String.ofList (lower parts.intent))
      (String.ofList (lower parts.target)) (Modifiers.collect (Modifiers.ofWords parts.modifiers)) =
        parts.command input := by
    simp [Parts.command, lowercase]
  simp only [Bool.false_eq_true, if_false, hcommand]
  cases v.validateCommand (parts.command input) <;> rfl

/-- Read a line under a vocabulary by matching the pattern of typed lines. -/
def readByPattern (v : Vocabulary) (input : String) : Except GrammarError ParsedLine :=
  if isBlankText input then .error .emptyInput
  else
    match firstMatch (commandPattern v.programName.toList) (trim input.toList) with
    | none => .ok ⟨.ofRaw input, .naturalLanguage, none⟩
    | some k =>
      .ok <| judged v <| .ofParts input (lowercase (String.ofList (k.intent.getD [])))
        (lowercase (String.ofList (k.target.getD [])))
        (Modifiers.read (String.ofList (k.tail.getD [])))

/-- **The reader and the pattern agree** on every line. -/
theorem read_eq_readByPattern (v : Vocabulary) (input : String) :
    read v input = readByPattern v input := by
  by_cases hblank : isBlankText input = true
  · simp [read, readByPattern, hblank]
  · rw [Bool.not_eq_true] at hblank
    have hsplit := firstMatch_commandPattern v.programName.toList (trim input.toList)
    unfold readByPattern
    rw [hblank]
    cases hmatch : firstMatch (commandPattern v.programName.toList) (trim input.toList) with
    | none =>
        rw [hmatch] at hsplit
        exact read_of_split?_eq_none hblank hsplit.symm
    | some k =>
        rw [hmatch] at hsplit
        rw [read_of_split?_eq_some hblank hsplit.symm]
        simp [Parts.command, Captures.parts, Modifiers.read]

/-! ## Token lines -/

/-- A line that begins with the name of the program in whatever case, followed by a blank, and
goes on with a word of word characters and other words. -/
def IsTokenLine (name line first : List Char) (others : List (List Char)) : Prop :=
  ∃ p r, line = p ++ r ∧ List.Forall₂ (fun a b => foldCase a = foldCase b) name p ∧
    (∃ c ∈ r.head?, isBlank c = true) ∧ words r = first :: others ∧ isWord first = true

/-- The first word of a token line consists of word characters. -/
theorem IsTokenLine.isWord {name line first : List Char} {others : List (List Char)}
    (h : IsTokenLine name line first others) : isWord first = true := by
  obtain ⟨_, _, -, -, -, -, hfirst⟩ := h
  exact hfirst

/-- The words of a token line are not empty and have no blanks. -/
theorem IsTokenLine.mem_words {name line first : List Char} {others : List (List Char)}
    (h : IsTokenLine name line first others) :
    ∀ w ∈ first :: others, w ≠ [] ∧ ∀ c ∈ w, isBlank c = false := by
  obtain ⟨_, _, -, -, -, hwords, -⟩ := h
  intro w hw
  rw [← hwords] at hw
  exact Emend.mem_words hw

/-- The name of the program is dropped from a line that begins with it, in any case. -/
theorem dropCaseless_eq_some_iff {name line r : List Char} :
    dropCaseless name line = some r ↔
      ∃ p, line = p ++ r ∧ List.Forall₂ (fun a b => foldCase a = foldCase b) name p := by
  induction name generalizing line with
  | nil =>
      rw [dropCaseless, Option.some_inj]
      constructor
      · intro h
        exact ⟨[], h, List.Forall₂.nil⟩
      · intro h
        obtain ⟨p, hline, hp⟩ := h
        cases hp
        exact hline
  | cons a name ih =>
      cases line with
      | nil =>
          simp only [dropCaseless, reduceCtorEq, false_iff]
          intro h
          obtain ⟨p, hline, hp⟩ := h
          cases hp
          cases hline
      | cons c line =>
          rw [dropCaseless]
          by_cases hc : foldCase a = foldCase c
          · rw [if_pos hc, ih]
            constructor
            · intro h
              obtain ⟨p, hline, hp⟩ := h
              exact ⟨c :: p, by rw [hline]; rfl, List.Forall₂.cons hc hp⟩
            · intro h
              obtain ⟨p, hline, hp⟩ := h
              cases hp with
              | cons _ hp =>
                  obtain ⟨-, hline⟩ := List.cons.inj hline
                  exact ⟨_, hline, hp⟩
          · rw [if_neg hc]
            simp only [reduceCtorEq, false_iff]
            intro h
            obtain ⟨p, hline, hp⟩ := h
            cases hp with
            | cons hd _ =>
                obtain ⟨hhead, -⟩ := List.cons.inj hline
                exact hc (hhead ▸ hd)

/-- A token line is split into what its words say. -/
theorem split?_of_isTokenLine {name line first : List Char} {others : List (List Char)}
    (h : IsTokenLine name line first others) :
    split? name line = ofWords? (first :: others) := by
  obtain ⟨p, r, hline, hp, ⟨c, hc, hblank⟩, hwords, -⟩ := h
  cases r with
  | nil => cases hc
  | cons d rest =>
      cases hc
      rw [split?, dropCaseless_eq_some_iff.mpr ⟨p, hline, hp⟩]
      rw [words_cons_blank hblank] at hwords
      simp [hblank, hwords]

/-- A line that is split is a token line. -/
theorem exists_isTokenLine {name line : List Char} {parts : Parts}
    (h : split? name line = some parts) :
    ∃ first others, IsTokenLine name line first others := by
  unfold split? at h
  split at h
  · next c rest hdrop =>
      split at h
      · next hblank =>
          obtain ⟨p, hline, hp⟩ := dropCaseless_eq_some_iff.mp hdrop
          cases hwords : words rest with
          | nil =>
              rw [hwords] at h
              cases h
          | cons first others =>
              refine ⟨first, others, p, c :: rest, hline, hp, ⟨c, rfl, hblank⟩, ?_, ?_⟩
              · rw [words_cons_blank hblank, hwords]
              · by_contra hword
                simp [hwords, ofWords?, hword] at h
      · cases h
  · cases h

/-- Whatever follows a word of word characters, it is the intent. -/
theorem exists_ofWords? {first : List Char} (hfirst : isWord first = true)
    (others : List (List Char)) :
    ∃ parts, ofWords? (first :: others) = some parts ∧ parts.intent = first := by
  cases others with
  | nil => exact ⟨_, by rw [ofWords?, if_pos hfirst], rfl⟩
  | cons word tail =>
      by_cases hword : isWord word = true
      · exact ⟨_, ofWords?_of_target hfirst hword, rfl⟩
      · exact ⟨⟨first, [], word :: tail⟩, by simp [ofWords?, hfirst, hword], rfl⟩

/-- The lines that are split are the token lines. -/
theorem exists_isTokenLine_iff {name line : List Char} :
    (∃ first others, IsTokenLine name line first others) ↔ (split? name line).isSome = true := by
  constructor
  · intro h
    obtain ⟨first, others, htoken⟩ := h
    obtain ⟨parts, hparts, -⟩ := exists_ofWords? htoken.isWord others
    rw [split?_of_isTokenLine htoken, hparts]
    rfl
  · intro h
    obtain ⟨parts, hsplit⟩ := Option.isSome_iff_exists.mp h
    exact exists_isTokenLine hsplit

/-! ## Reading -/

/-- The parts of a token line are what its words say. -/
theorem command_of_isTokenLine {name line first : List Char} {others : List (List Char)}
    {parts : Parts} (htoken : IsTokenLine name line first others)
    (hsplit : split? name line = some parts) (input : String) :
    (parts.command input).intent = lowercase (String.ofList first) ∧
      (∀ word tail, others = word :: tail → isWord word = true →
        (parts.command input).target = lowercase (String.ofList word) ∧
          (parts.command input).modifiers = Modifiers.collect (Modifiers.ofWords tail)) ∧
      ((∀ word ∈ others.head?, isWord word = false) →
        (parts.command input).target = "" ∧
          (parts.command input).modifiers = Modifiers.collect (Modifiers.ofWords others)) := by
  have hfirst : isWord first = true := htoken.isWord
  rw [split?_of_isTokenLine htoken] at hsplit
  refine ⟨?_, ?_, ?_⟩
  · obtain ⟨parts', hparts, hintent⟩ := exists_ofWords? hfirst others
    rw [hparts, Option.some_inj] at hsplit
    rw [← hintent, hsplit]
    rfl
  · intro word tail hothers hword
    rw [hothers, ofWords?_of_target hfirst hword, Option.some_inj] at hsplit
    rw [← hsplit]
    exact ⟨rfl, rfl⟩
  · intro hothers
    rw [ofWords?_of_no_target hfirst hothers, Option.some_inj] at hsplit
    rw [← hsplit]
    exact ⟨rfl, rfl⟩

/-- A line that is not blank is either split, and its command held against the grammar, or kept as
natural language. -/
theorem read_cases (v : Vocabulary) {input : String} (h : isBlankText input = false) :
    ((¬ ∃ first others, IsTokenLine v.programName.toList (trim input.toList) first others) ∧
        read v input = .ok ⟨.ofRaw input, .naturalLanguage, none⟩) ∨
      ∃ parts, split? v.programName.toList (trim input.toList) = some parts ∧
        read v input = .ok (judged v (parts.command input)) := by
  rw [exists_isTokenLine_iff]
  cases hsplit : split? v.programName.toList (trim input.toList) with
  | none => exact Or.inl ⟨by simp, read_of_split?_eq_none h hsplit⟩
  | some parts => exact Or.inr ⟨parts, rfl, read_of_split?_eq_some h hsplit⟩

/-- **Reading accepts exactly the token grammar.**  A line that is not blank is always read,
and by the pattern it is read alike.  It is structured exactly if it is a token line.  Its
intent is then the first word; its target is the second word if that is made of word
characters, and the modifiers are the words after that; otherwise it has no target and all
further words are modifiers; and the mark and the error are those of the grammar.  Any other
line is natural language of which only the text is kept. -/
theorem read_token_grammar (v : Vocabulary) {input : String} (h : isBlankText input = false) :
    ∃ p, read v input = .ok p ∧ readByPattern v input = .ok p ∧ p.command.raw = input ∧
      p.command.metadata = {} ∧
      (p.form = .structured ↔
        ∃ first others, IsTokenLine v.programName.toList (trim input.toList) first others) ∧
      (∀ first others, IsTokenLine v.programName.toList (trim input.toList) first others →
        p.command.intent = lowercase (String.ofList first) ∧
        (∀ word tail, others = word :: tail → isWord word = true →
          p.command.target = lowercase (String.ofList word) ∧
            p.command.modifiers = Modifiers.collect (Modifiers.ofWords tail)) ∧
        ((∀ word ∈ others.head?, isWord word = false) →
          p.command.target = "" ∧
            p.command.modifiers = Modifiers.collect (Modifiers.ofWords others)) ∧
        (p.command.isValid = true ↔ p.grammarError = none) ∧
        (p.grammarError = none ↔ v.validateCommand p.command = .ok ())) ∧
      ((¬ ∃ first others, IsTokenLine v.programName.toList (trim input.toList) first others) →
        p.form = .naturalLanguage ∧ p.command = Command.ofRaw input ∧ p.grammarError = none) := by
  cases hsplit : split? v.programName.toList (trim input.toList) with
  | none =>
      have hread := read_of_split?_eq_none h hsplit
      have hno : ¬ ∃ first others,
          IsTokenLine v.programName.toList (trim input.toList) first others := by
        intro htoken
        obtain ⟨first, others, htoken⟩ := htoken
        obtain ⟨parts, hparts, -⟩ := exists_ofWords? htoken.isWord others
        rw [split?_of_isTokenLine htoken, hparts] at hsplit
        cases hsplit
      refine ⟨_, hread, ?_, rfl, rfl, ?_, ?_, ?_⟩
      · rw [← read_eq_readByPattern]
        exact hread
      · exact iff_of_false (by simp) hno
      · exact fun first others htoken => absurd ⟨first, others, htoken⟩ hno
      · exact fun _ => ⟨rfl, rfl, rfl⟩
  | some parts =>
      have hread := read_of_split?_eq_some h hsplit
      have hcommand := judged_command v (parts.command input)
      refine ⟨_, hread, ?_, ?_, ?_, ?_, ?_, ?_⟩
      · rw [← read_eq_readByPattern]
        exact hread
      · rw [hcommand]
        rfl
      · rw [hcommand]
        rfl
      · exact iff_of_true (judged_form _ _) (exists_isTokenLine hsplit)
      · intro first others htoken
        obtain ⟨hintent, htarget, hnoTarget⟩ := command_of_isTokenLine htoken hsplit input
        refine ⟨?_, ?_, ?_, judged_isValid_iff rfl, ?_⟩
        · rw [hcommand]
          exact hintent
        · rw [hcommand]
          exact htarget
        · rw [hcommand]
          exact hnoTarget
        · rw [judged_grammarError_iff, hcommand]
          rfl
      · exact fun hno => absurd (exists_isTokenLine hsplit) hno

/-- What the user types as a second word is a target only if it is a word. -/
theorem read_token_grammar_whats :
    isBlankText " MENDER  Status what's --depth=3" = false ∧
      ∃ p, read .builtIn " MENDER  Status what's --depth=3" = .ok p ∧
        p.form = .structured ∧ p.command.intent = "status" ∧ p.command.target = "" ∧
        p.command.modifiers =
          Modifiers.collect (Modifiers.ofWords ["what's".toList, "--depth=3".toList]) := by
  have h : isBlankText " MENDER  Status what's --depth=3" = false := by decide +kernel
  refine ⟨h, ?_⟩
  obtain ⟨p, hread, -, -, -, hform, hparts, -⟩ := read_token_grammar .builtIn h
  have htoken : IsTokenLine Vocabulary.builtIn.programName.toList
      (trim " MENDER  Status what's --depth=3".toList) "Status".toList
      ["what's".toList, "--depth=3".toList] := by
    refine ⟨"MENDER".toList, "  Status what's --depth=3".toList, ?_, ?_, ⟨' ', ?_, ?_⟩, ?_, ?_⟩
    all_goals decide +kernel
  obtain ⟨hintent, -, hnone, -⟩ := hparts _ _ htoken
  obtain ⟨htarget, hmodifiers⟩ := hnone (by decide +kernel)
  refine ⟨p, hread, hform.mpr ⟨_, _, htoken⟩, ?_, htarget, hmodifiers⟩
  rw [hintent]
  decide +kernel

end Line

end Emend
