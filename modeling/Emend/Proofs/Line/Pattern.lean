import Emend.Line
import Emend.Proofs.Text.CaseRuns
import Emend.Proofs.Text.Words

/-!
# Lines by pattern matching

The form of a typed line can be given as a pattern,

    name\s+(\w+)(?:\s+(\w+))?(?:\s+(.*))?

matched from the beginning of the line to its end without regard to case.  A pattern may
match in many ways.  Which match counts is settled by preference: a run takes as many
characters as it can, an optional part is taken if possible, and a choice is given up only if
nothing that follows it can be matched.  `Pattern.matches` lists all matches in this order, and
`firstMatch` is the one that counts.

`split?` never tries anything twice: it looks at whole words.  `firstMatch_commandPattern` says
that both find the same parts on every line.  The reason is that a shorter run never helps.
What follows a run of blanks cannot start with a blank, and what follows a word cannot start
within the word (`andThen_run_of_only`).
-/

namespace Emend

namespace Line

/-! ## Patterns and their matches -/

/-- The parts of a line that a pattern keeps. -/
inductive Group
  | intent
  | target
  | tail
deriving DecidableEq, Repr

/-- What the groups of a pattern have matched. -/
structure Captures where
  intent : Option (List Char) := none
  target : Option (List Char) := none
  tail : Option (List Char) := none
deriving DecidableEq, Repr

/-- The captures with what a group has matched, if it is to be kept. -/
def Captures.record (k : Captures) : Option Group → List Char → Captures
  | none, _ => k
  | some .intent, text => { k with intent := some text }
  | some .target, text => { k with target := some text }
  | some .tail, text => { k with tail := some text }

/-- A pattern for the characters of a line. -/
inductive Pattern
  /-- One character of a class. -/
  | one (test : Char → Bool)
  /-- At least so many characters of a class, as many as possible. -/
  | run (least : Nat) (test : Char → Bool) (group : Option Group)
  /-- One pattern after the other. -/
  | seq (p q : Pattern)
  /-- A pattern, or nothing. -/
  | maybe (p : Pattern)
  /-- The end of the line. -/
  | atEnd

/-- The ways to take characters of a class from the front of a text, the longest first. -/
def splits (test : Char → Bool) : List Char → List (List Char × List Char)
  | [] => [([], [])]
  | c :: cs =>
    if test c then (splits test cs).map (fun s => (c :: s.1, s.2)) ++ [([], c :: cs)]
    else [([], c :: cs)]

/-- All matches of a pattern at the beginning of a text, the preferred ones first: what has
been captured, and what is left of the text. -/
def Pattern.matches : Pattern → Captures → List Char → List (Captures × List Char)
  | one _, _, [] => []
  | one test, k, c :: cs => if test c then [(k, cs)] else []
  | run least test group, k, cs =>
    ((splits test cs).filter fun s => least ≤ s.1.length).map fun s => (k.record group s.1, s.2)
  | seq p q, k, cs => (p.matches k cs).flatMap fun m => q.matches m.1 m.2
  | maybe p, k, cs => p.matches k cs ++ [(k, cs)]
  | atEnd, k, cs => if cs = [] then [(k, cs)] else []

/-- What the preferred match of a pattern captures. -/
def firstMatch (p : Pattern) (line : List Char) : Option Captures :=
  (p.matches {} line).findSome? fun m => some m.1

/-- A run of blanks. -/
def Pattern.blanks : Pattern := .run 1 isBlank none

/-- A run of word characters. -/
def Pattern.word (group : Group) : Pattern := .run 1 isWordChar (some group)

/-- What may follow the target. -/
def Pattern.modifiers : Pattern :=
  .seq (.maybe (.seq .blanks (.run 0 (fun _ => true) (some .tail)))) .atEnd

/-- What may follow the intent. -/
def Pattern.arguments : Pattern :=
  .seq (.maybe (.seq .blanks (.word .target))) .modifiers

/-- What has to follow the name of the program. -/
def Pattern.request : Pattern := .seq .blanks (.seq (.word .intent) .arguments)

/-- The pattern of a typed line. -/
def commandPattern (name : List Char) : Pattern :=
  name.foldr (fun p rest => .seq (.one fun c => foldCase p = foldCase c) rest) .request

/-- The parts of a line that the captures stand for. -/
def Captures.parts (k : Captures) : Parts :=
  ⟨k.intent.getD [], k.target.getD [], words (k.tail.getD [])⟩

/-! ## Runs -/

/-- What a continuation makes of the matches of a pattern, taken in order of preference. -/
def Pattern.andThen {β : Type} (p : Pattern) (f : Captures × List Char → Option β) (k : Captures)
    (cs : List Char) : Option β := (p.matches k cs).findSome? f

section

variable {β : Type} {f : Captures × List Char → Option β} {k : Captures} {cs : List Char}

theorem findSome?_flatMap {α γ : Type} (l : List α) (g : α → List γ) (f : γ → Option β) :
    (l.flatMap g).findSome? f = l.findSome? fun a => (g a).findSome? f := by
  induction l with
  | nil => rfl
  | cons a l ih =>
      rw [List.flatMap_cons, List.findSome?_append, ih, List.findSome?_cons]
      cases (g a).findSome? f <;> rfl

/-- A sequence is its first part, continued with the second. -/
theorem andThen_seq (p q : Pattern) :
    (Pattern.seq p q).andThen f k cs = p.andThen (fun m => q.andThen f m.1 m.2) k cs := by
  rw [Pattern.andThen, Pattern.matches, findSome?_flatMap]
  rfl

/-- An optional part is tried before it is left out. -/
theorem andThen_maybe (p : Pattern) :
    (Pattern.maybe p).andThen f k cs = (p.andThen f k cs).or (f (k, cs)) := by
  simp [Pattern.andThen, Pattern.matches, List.findSome?_append]

/-- The longest run is tried first, and after a shorter one a character of the run is left. -/
theorem splits_eq_cons (test : Char → Bool) (cs : List Char) :
    ∃ shorter, splits test cs = (cs.takeWhile test, cs.dropWhile test) :: shorter ∧
      ∀ s ∈ shorter, ∃ c rest, s.2 = c :: rest ∧ test c = true := by
  induction cs with
  | nil => exact ⟨[], rfl, by simp⟩
  | cons c cs ih =>
      by_cases h : test c = true
      · obtain ⟨shorter, heq, hshorter⟩ := ih
        refine ⟨shorter.map (fun s => (c :: s.1, s.2)) ++ [([], c :: cs)], ?_, ?_⟩
        · simp [splits, h, heq]
        · intro s hs
          rcases List.mem_append.mp hs with hs | hs
          · obtain ⟨s', hs', rfl⟩ := List.mem_map.mp hs
            exact hshorter s' hs'
          · rw [List.mem_singleton] at hs
            subst hs
            exact ⟨c, cs, rfl, h⟩
      · exact ⟨[], by simp [splits, h], by simp⟩

/-- A run takes the most it can if the rest of the pattern can do with that. -/
theorem andThen_run_of_longest {least : Nat} {test : Char → Bool} {group : Option Group} {b : β}
    (hleast : least ≤ (cs.takeWhile test).length)
    (h : f (k.record group (cs.takeWhile test), cs.dropWhile test) = some b) :
    (Pattern.run least test group).andThen f k cs = some b := by
  obtain ⟨shorter, heq, -⟩ := splits_eq_cons test cs
  simp [Pattern.andThen, Pattern.matches, heq, hleast, h]

/-- **A shorter run never helps** if what follows cannot start with a character of the
class.  Then the longest run is the only one that has to be tried. -/
theorem andThen_run_of_only {least : Nat} {test : Char → Bool} {group : Option Group}
    (h : ∀ k c rest, test c = true → f (k, c :: rest) = none) :
    (Pattern.run least test group).andThen f k cs =
      if least ≤ (cs.takeWhile test).length then
        f (k.record group (cs.takeWhile test), cs.dropWhile test)
      else none := by
  obtain ⟨shorter, heq, hshorter⟩ := splits_eq_cons test cs
  have hnone : ∀ l : List (List Char × List Char), (∀ s ∈ l, s ∈ shorter) →
      (l.map fun s => (k.record group s.1, s.2)).findSome? f = none := by
    intro l hl
    rw [List.findSome?_eq_none_iff]
    intro m hm
    obtain ⟨s, hs, rfl⟩ := List.mem_map.mp hm
    obtain ⟨c, rest, hrest, hc⟩ := hshorter s (hl s hs)
    rw [hrest]
    exact h _ c rest hc
  have hrest := hnone (shorter.filter fun s => least ≤ s.1.length)
    (fun s hs => (List.mem_filter.mp hs).1)
  by_cases hleast : least ≤ (cs.takeWhile test).length
  · simp only [Pattern.andThen, Pattern.matches, heq, if_pos hleast]
    rw [List.filter_cons_of_pos (by simpa using hleast), List.map_cons, List.findSome?_cons, hrest]
    cases f (k.record group (cs.takeWhile test), cs.dropWhile test) <;> rfl
  · simp only [Pattern.andThen, Pattern.matches, heq, if_neg hleast]
    rw [List.filter_cons_of_neg (by simpa using hleast), hrest]

/-- A run that has to take something fails where it cannot start. -/
theorem andThen_run_of_not_start {least : Nat} {test : Char → Bool} {group : Option Group}
    (hleast : 0 < least) (h : ∀ c ∈ cs.head?, test c = false) :
    (Pattern.run least test group).andThen f k cs = none := by
  have hsplits : splits test cs = [([], cs)] := by
    cases cs with
    | nil => rfl
    | cons c cs => simp [splits, h c rfl]
  simp [Pattern.andThen, Pattern.matches, hsplits, Nat.ne_of_gt hleast]

end

/-! ## The parts of the pattern -/

/-- The continuation that keeps what has been captured. -/
def keep : Captures × List Char → Option Captures := fun m => some m.1

/-- The end matches nothing but the end. -/
theorem andThen_atEnd (k : Captures) (cs : List Char) :
    Pattern.atEnd.andThen keep k cs = if cs = [] then some k else none := by
  unfold Pattern.andThen Pattern.matches
  split <;> rfl

/-- Blanks cannot start where a word goes on. -/
theorem andThen_blanks_of_not_boundary {β : Type} {f : Captures × List Char → Option β}
    {k : Captures} {c : Char} (h : isBlank c = false) (cs : List Char) :
    Pattern.blanks.andThen f k (c :: cs) = none :=
  andThen_run_of_not_start Nat.one_pos (by simpa using h)

/-- Modifiers do not begin in the middle of a word. -/
theorem andThen_modifiers_of_not_boundary {k : Captures} {c : Char} (h : isBlank c = false)
    (cs : List Char) : Pattern.modifiers.andThen keep k (c :: cs) = none := by
  rw [Pattern.modifiers, andThen_seq, andThen_maybe, andThen_seq,
    andThen_blanks_of_not_boundary h, andThen_atEnd]
  rfl

/-- Arguments do not begin in the middle of a word. -/
theorem andThen_arguments_of_not_boundary {k : Captures} {c : Char} (h : isBlank c = false)
    (cs : List Char) : Pattern.arguments.andThen keep k (c :: cs) = none := by
  rw [Pattern.arguments, andThen_seq, andThen_maybe, andThen_seq,
    andThen_blanks_of_not_boundary h, andThen_modifiers_of_not_boundary h]
  rfl

/-- A word cannot start with a blank. -/
theorem andThen_word_of_blank {β : Type} {f : Captures × List Char → Option β} {k : Captures}
    {group : Group} {c : Char} (h : isBlank c = true) (cs : List Char) :
    (Pattern.word group).andThen f k (c :: cs) = none :=
  andThen_run_of_not_start Nat.one_pos (by simpa using isWordChar_of_isBlank h)

/-- Where a word ends, all that follows can be taken for modifiers. -/
theorem andThen_modifiers {k : Captures} {cs : List Char} (h : AtBoundary cs)
    (htail : k.tail = none) :
    ∃ k', Pattern.modifiers.andThen keep k cs = some k' ∧ k'.intent = k.intent ∧
      k'.target = k.target ∧ words (k'.tail.getD []) = words cs := by
  rw [Pattern.modifiers, andThen_seq, andThen_maybe, andThen_seq]
  cases cs with
  | nil =>
      refine ⟨k, ?_, rfl, rfl, by rw [htail]; rfl⟩
      rw [Pattern.blanks, andThen_run_of_not_start Nat.one_pos (by simp), andThen_atEnd]
      rfl
  | cons c cs =>
      have hc : isBlank c = true := atBoundary_cons.mp h
      refine ⟨k.record (some .tail) (cs.dropWhile isBlank), ?_, rfl, rfl, ?_⟩
      · rw [Pattern.blanks,
          andThen_run_of_longest (b := k.record (some .tail) (cs.dropWhile isBlank))]
        · rfl
        · simp [hc]
        · apply andThen_run_of_longest (Nat.zero_le _)
          simp [hc, andThen_atEnd, Captures.record]
      · rw [Captures.record, Option.getD_some, words_dropWhile_blank, words_cons_blank hc]

/-- What follows a run of blanks does not start with one, so only the longest run of them
has to be tried before a word; and of a word only all of it before the next blank. -/
theorem andThen_blanks_word {f : Captures × List Char → Option Captures} {k : Captures}
    {group : Group} {c : Char} {cs : List Char} (hc : isBlank c = true)
    (hf : ∀ k d rest, isBlank d = false → f (k, d :: rest) = none) :
    (Pattern.seq .blanks (.word group)).andThen f k (c :: cs) =
      if 1 ≤ ((cs.dropWhile isBlank).takeWhile isWordChar).length then
        f (k.record (some group) ((cs.dropWhile isBlank).takeWhile isWordChar),
          (cs.dropWhile isBlank).dropWhile isWordChar)
      else none := by
  rw [andThen_seq, Pattern.blanks, andThen_run_of_only]
  · rw [if_pos (by simp [hc]), List.dropWhile_cons_of_pos hc, Captures.record, Pattern.word,
      andThen_run_of_only]
    exact fun k d rest hd => hf k d rest (isBlank_of_isWordChar hd)
  · exact fun k d rest hd => andThen_word_of_blank hd rest

/-! ## Words of word characters -/

/-- Before a boundary, the longest run of word characters is the word. -/
theorem takeWhile_isWordChar {w cs : List Char} (hw : isWord w = true) (h : AtBoundary cs) :
    (w ++ cs).takeWhile isWordChar = w ∧ (w ++ cs).dropWhile isWordChar = cs := by
  have hall : ∀ c ∈ w, isWordChar c = true := List.all_eq_true.mp hw
  rw [List.takeWhile_append_of_pos hall, List.dropWhile_append_of_pos hall]
  cases cs with
  | nil => simp
  | cons c cs => simp [isWordChar_of_isBlank (atBoundary_cons.mp h)]

/-- In a word with another character the word characters end before the word does. -/
theorem dropWhile_isWordChar {w : List Char} (hblank : ∀ c ∈ w, isBlank c = false)
    (hw : isWord w = false) (cs : List Char) :
    ∃ c rest, (w ++ cs).dropWhile isWordChar = c :: rest ∧ isBlank c = false := by
  induction w with
  | nil => cases hw
  | cons c w ih =>
      by_cases hc : isWordChar c = true
      · have hrest : isWord w = false := by simpa [isWord, hc] using hw
        obtain ⟨d, rest, heq, hd⟩ := ih (fun d hd => hblank d (List.mem_cons_of_mem _ hd)) hrest
        exact ⟨d, rest, by simpa [hc] using heq, hd⟩
      · exact ⟨c, w ++ cs, by simp [hc], hblank c List.mem_cons_self⟩

/-- A second word that consists of word characters is the target. -/
theorem ofWords?_of_target {first word : List Char} {tail : List (List Char)}
    (hfirst : isWord first = true) (hword : isWord word = true) :
    ofWords? (first :: word :: tail) = some ⟨first, word, tail⟩ := by
  simp [ofWords?, hfirst, hword]

/-- Without such a word, all words after the intent are modifiers. -/
theorem ofWords?_of_no_target {first : List Char} {others : List (List Char)}
    (hfirst : isWord first = true) (hothers : ∀ word ∈ others.head?, isWord word = false) :
    ofWords? (first :: others) = some ⟨first, [], others⟩ := by
  cases others with
  | nil => simp [ofWords?, hfirst]
  | cons word tail => simp [ofWords?, hfirst, hothers word rfl]

/-! ## The pattern and the words -/

/-- After a blank, a word of the pattern can only be the whole next word of the text; it is not
there if that word has a character of another kind. -/
theorem andThen_blanks_word_cases {f : Captures × List Char → Option Captures} {k : Captures}
    {group : Group} {c : Char} {cs : List Char} (hc : isBlank c = true)
    (hf : ∀ k d rest, isBlank d = false → f (k, d :: rest) = none) :
    (∃ w rest, words cs = w :: words rest ∧ isWord w = true ∧ AtBoundary rest ∧
      (Pattern.seq .blanks (.word group)).andThen f k (c :: cs) =
        f (k.record (some group) w, rest)) ∨
    ((∀ w ∈ (words cs).head?, isWord w = false) ∧
      (Pattern.seq .blanks (.word group)).andThen f k (c :: cs) = none) := by
  rw [andThen_blanks_word hc hf, ← words_dropWhile_blank cs]
  by_cases hnone : cs.dropWhile isBlank = []
  · right
    rw [hnone]
    exact ⟨by simp, rfl⟩
  · obtain ⟨w, rest, heq, hne, hblank, hrest⟩ :=
      exists_word_append hnone (not_atBoundary_dropWhile hnone)
    rw [heq, words_append hne hblank hrest]
    by_cases hw : isWord w = true
    · left
      obtain ⟨htake, hdrop⟩ := takeWhile_isWordChar hw hrest
      refine ⟨w, rest, rfl, hw, hrest, ?_⟩
      rw [htake, hdrop, if_pos (Nat.succ_le_of_lt (List.length_pos_iff.mpr hne))]
    · right
      have hw : isWord w = false := Bool.of_not_eq_true hw
      obtain ⟨d, rest', hdrop, hd⟩ := dropWhile_isWordChar hblank hw rest
      refine ⟨by simpa using hw, ?_⟩
      rw [hdrop, hf _ d rest' hd, ite_self]

/-- After the intent, target and modifiers are found as the words say. -/
theorem andThen_arguments {w cs : List Char} (hw : isWord w = true) (h : AtBoundary cs) :
    ∃ k', Pattern.arguments.andThen keep { intent := some w } cs = some k' ∧
      ofWords? (w :: words cs) = some k'.parts := by
  rw [Pattern.arguments, andThen_seq, andThen_maybe]
  obtain ⟨k', hmodifiers, hintent, htarget, htail⟩ :=
    andThen_modifiers (k := { intent := some w }) h rfl
  -- Without a target everything is left to the modifiers.
  have hparts : k'.parts = ⟨w, [], words cs⟩ := by
    simp [Captures.parts, hintent, htarget, htail]
  cases cs with
  | nil =>
      refine ⟨k', ?_, by simp [ofWords?, hw, hparts]⟩
      rw [andThen_seq, Pattern.blanks, andThen_run_of_not_start Nat.one_pos (by simp), hmodifiers]
      rfl
  | cons c cs =>
      have hc : isBlank c = true := atBoundary_cons.mp h
      rw [words_cons_blank hc] at hparts ⊢
      rcases andThen_blanks_word_cases (f := fun m => Pattern.modifiers.andThen keep m.1 m.2) hc
        (fun k d rest hd => andThen_modifiers_of_not_boundary hd rest)
        with ⟨w₂, rest, heq, hw₂, hrest, hmatch⟩ | ⟨hother, hmatch⟩
      · obtain ⟨k₂, hmodifiers₂, hintent₂, htarget₂, htail₂⟩ :=
          andThen_modifiers (k := { intent := some w, target := some w₂ }) hrest rfl
        refine ⟨k₂, ?_, ?_⟩
        · rw [hmatch, Captures.record, hmodifiers₂]
          rfl
        · rw [heq, ofWords?_of_target hw hw₂]
          simp [Captures.parts, hintent₂, htarget₂, htail₂]
      · refine ⟨k', ?_, ?_⟩
        · rw [hmatch, hmodifiers]
          rfl
        · rw [hparts]
          exact ofWords?_of_no_target hw hother

/-- After the name of the program, the pattern asks for what the words have to be. -/
theorem andThen_request {c : Char} {cs : List Char} (hc : isBlank c = true) :
    (Pattern.request.andThen keep {} (c :: cs)).map Captures.parts = ofWords? (words cs) := by
  have hassoc : Pattern.request.andThen keep {} (c :: cs) =
      (Pattern.seq .blanks (.word .intent)).andThen
        (fun m => Pattern.arguments.andThen keep m.1 m.2) {} (c :: cs) := by
    rw [Pattern.request, andThen_seq, andThen_seq]
    congr 1
    funext m
    rw [andThen_seq]
  rw [hassoc]
  rcases andThen_blanks_word_cases (f := fun m => Pattern.arguments.andThen keep m.1 m.2) hc
    (fun k d rest hd => andThen_arguments_of_not_boundary hd rest)
    with ⟨w, rest, heq, hw, hrest, hmatch⟩ | ⟨hother, hmatch⟩
  · obtain ⟨k, harguments, hparts⟩ := andThen_arguments hw hrest
    rw [hmatch, heq, hparts, Captures.record, harguments]
    rfl
  · rw [hmatch]
    cases hwords : words cs with
    | nil => rfl
    | cons w others =>
        have hw : isWord w = false := hother w (by rw [hwords]; rfl)
        simp [ofWords?, hw]

/-- The pattern of a line is the name of the program, in any case, and a request. -/
theorem andThen_commandPattern (name line : List Char) :
    (commandPattern name).andThen keep {} line =
      (dropCaseless name line).bind fun rest => Pattern.request.andThen keep {} rest := by
  induction name generalizing line with
  | nil => rfl
  | cons p name ih =>
      rw [commandPattern, List.foldr_cons, andThen_seq]
      cases line with
      | nil => rfl
      | cons c line =>
          rw [dropCaseless]
          by_cases h : foldCase p = foldCase c
          · rw [if_pos h, ← ih line]
            simp [Pattern.andThen, Pattern.matches, h, commandPattern]
          · rw [if_neg h]
            simp [Pattern.andThen, Pattern.matches, h]

/-- **The pattern and the words agree**: on every line, the preferred match of the pattern
captures the parts that `split?` finds, and there is no match where it finds none. -/
theorem firstMatch_commandPattern (name line : List Char) :
    (firstMatch (commandPattern name) line).map Captures.parts = split? name line := by
  have hfirst : firstMatch (commandPattern name) line =
      (commandPattern name).andThen keep {} line := rfl
  rw [hfirst, andThen_commandPattern, split?]
  cases dropCaseless name line with
  | none => rfl
  | some rest =>
      cases rest with
      | nil => rfl
      | cons c cs =>
          by_cases hc : isBlank c = true
          · simpa [hc] using andThen_request hc
          · have hc : isBlank c = false := Bool.of_not_eq_true hc
            rw [Option.bind_some, Pattern.request, andThen_seq, andThen_blanks_of_not_boundary hc]
            simp [hc]

end Line

end Emend
