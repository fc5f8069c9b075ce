import Emend.Proofs.Dict
import Emend.Proofs.Modifiers
import Emend.Proofs.Text.Words

/-!
# Where a modifier ends

A modifier is written in one word or in two, and which of them it is the next word decides.  So a
list of words can be cut into two lists that are read apart unless the cut falls between a word that
waits for a value and a word that can be one (`ofWords_append`).  In particular words can be added
to others if the first of them has a dash (`get?_read_append`).

A word without a dash and without an equality sign names a flag, or is the value of the word before
it.  A dash or two alone wait for a value as well, but have no name to keep it under, and so the
word after them is lost.  `word_accounted_iff` says that no other word is, and `word_lost` shows one
that is.
-/

namespace Emend

namespace Modifiers

/-! ## Words and values -/

/-- A word that has the next one as its value, unless that has a dash too. -/
def TakesValue (word : List Char) : Prop := isDashed word = true ∧ '=' ∉ word

/-- A word without a dash and without an equals sign is a flag. -/
theorem ofWords_of_bare {word : List Char} (h : '=' ∉ word) (hbare : isDashed word = false)
    (rest : List (List Char)) :
    ofWords (word :: rest) = (word, flagTrue.toList) :: ofWords rest := by
  rw [ofWords.eq_def]
  simp [assignment?_eq_none_iff.mpr h, hbare]

/-- A dashed name takes the next word as its value, unless that is dashed, too. -/
theorem ofWords_of_value {word value : List Char} (h : TakesValue word)
    (hvalue : isDashed value = false) (rest : List (List Char)) :
    ofWords (word :: value :: rest) = (withoutDashes word, value) :: ofWords rest := by
  rw [ofWords.eq_def]
  simp [assignment?_eq_none_iff.mpr h.2, h.1, hvalue]

/-! ## Cuts -/

/-- Two lists of words of which the first does not end in the middle of a modifier. -/
def AreApart (xs ys : List (List Char)) : Prop :=
  (∀ word ∈ xs.getLast?, ¬ TakesValue word) ∨ ∀ word ∈ ys.head?, isDashed word = true

/-- What is apart from a list is apart from it without its first word. -/
theorem AreApart.of_cons {word : List Char} {xs ys : List (List Char)}
    (h : AreApart (word :: xs) ys) : AreApart xs ys := by
  rcases h with hlast | hfirst
  · left
    intro last hmem
    exact hlast last (by simpa [List.getLast?_cons] using Option.mem_def.mp hmem ▸ rfl)
  · exact Or.inr hfirst

/-- **Words that are apart are read apart.**  The induction takes the words that a modifier takes;
if that is the last word of the first list, the cut decides what it is. -/
theorem ofWords_append {xs ys : List (List Char)} (h : AreApart xs ys) :
    ofWords (xs ++ ys) = ofWords xs ++ ofWords ys := by
  fun_induction ofWords xs with
  | case1 => rfl
  | case2 word rest key value hassign ih =>
      obtain ⟨rfl, hkey⟩ := eq_of_assignment?_eq_some hassign
      rw [List.cons_append, ofWords_of_assignment hkey, ih h.of_cons, List.cons_append]
  | case3 word hassign hdashed =>
      have hunassigned := assignment?_eq_none_iff.mp hassign
      have hfirst : ∀ next ∈ ys.head?, isDashed next = true :=
        h.resolve_left fun hlast => hlast word rfl ⟨hdashed, hunassigned⟩
      exact ofWords_of_flag hunassigned hdashed hfirst
  | case4 word hassign hdashed next rest hnext ih =>
      have hunassigned := assignment?_eq_none_iff.mp hassign
      have hfirst : ∀ u ∈ (next :: rest ++ ys).head?, isDashed u = true := by
        simpa using hnext
      rw [List.cons_append, ofWords_of_flag hunassigned hdashed hfirst, ih h.of_cons,
        List.cons_append]
  | case5 word hassign hdashed value rest hvalue ih =>
      have htakes : TakesValue word := ⟨hdashed, assignment?_eq_none_iff.mp hassign⟩
      rw [List.cons_append, List.cons_append,
        ofWords_of_value htakes (Bool.eq_false_iff.mpr hvalue), ih h.of_cons.of_cons,
        List.cons_append]
  | case6 word rest hassign hdashed ih =>
      have hunassigned := assignment?_eq_none_iff.mp hassign
      rw [List.cons_append, ofWords_of_bare hunassigned (Bool.eq_false_iff.mpr hdashed),
        ih h.of_cons, List.cons_append]

/-- Of modifiers that are collected together, the later ones count. -/
theorem get?_collect_append (l m : List (List Char × List Char)) (key : String) :
    (collect (l ++ m)).get? key = ((collect m).get? key).or ((collect l).get? key) := by
  simp only [collect, List.filter_append, List.map_append, Dict.get?_ofList_append]

/-- **Words the first of which has a dash are read on their own** wherever they are added, and what
they say counts. -/
theorem get?_read_append {x blanks y : String} (hne : blanks ≠ "")
    (hblanks : isBlankText blanks = true)
    (hfirst : ∀ word ∈ (words y.toList).head?, isDashed word = true) (key : String) :
    (read (x ++ blanks ++ y)).get? key = ((read y).get? key).or ((read x).get? key) := by
  obtain ⟨hboundary, hwords⟩ := words_after_blanks hne hblanks y
  rw [read, String.append_assoc, String.toList_append, words_append_boundary _ hboundary, hwords,
    ofWords_append (Or.inr hfirst), get?_collect_append, read, read]

/-! ## Words that are accounted for -/

/-- The names that are collected are those that were read, except the empty one. -/
theorem mem_keys_collect {l : List (List Char × List Char)} {name : List Char} :
    String.ofList name ∈ (collect l).keys ↔ name ≠ [] ∧ ∃ value, (name, value) ∈ l := by
  rw [collect, Dict.mem_keys_ofList, List.map_map, List.mem_map]
  constructor
  · intro h
    obtain ⟨m, hm, hname⟩ := h
    obtain ⟨hmem, hne⟩ := List.mem_filter.mp hm
    obtain rfl : m.1 = name := String.ofList_injective hname
    exact ⟨of_decide_eq_true hne, m.2, hmem⟩
  · intro h
    obtain ⟨hne, value, hmem⟩ := h
    exact ⟨(name, value), List.mem_filter.mpr ⟨hmem, decide_eq_true hne⟩, rfl⟩

/-- What is collected from two lists has the names of both. -/
theorem mem_keys_collect_append {l m : List (List Char × List Char)} {key : String} :
    key ∈ (collect (l ++ m)).keys ↔ key ∈ (collect l).keys ∨ key ∈ (collect m).keys := by
  simp only [Dict.mem_keys_iff, get?_collect_append, Option.isSome_or, Bool.or_eq_true, or_comm]

/-- A modifier without a key is not collected. -/
theorem collect_nameless (l m : List (List Char × List Char)) (value : List Char) :
    collect (l ++ ([], value) :: m) = collect (l ++ m) := by
  simp [collect]

/-- A dash or two, and nothing else. -/
def IsLoneDash (word : List Char) : Prop := word = ['-'] ∨ word = ['-', '-']

/-- A lone dash takes a value, though it has no name to give it to. -/
theorem IsLoneDash.takesValue {word : List Char} (h : IsLoneDash word) : TakesValue word := by
  rcases h with rfl | rfl
  · exact ⟨by decide, by decide⟩
  · exact ⟨by decide, by decide⟩

/-- Of the words with a dash, only these have no name. -/
theorem withoutDashes_eq_nil_iff {word : List Char} (h : isDashed word = true) :
    withoutDashes word = [] ↔ IsLoneDash word := by
  unfold IsLoneDash
  fun_cases withoutDashes word with
  | case1 cs => simp
  | case2 cs hsingle =>
      have hne : cs ≠ ['-'] := fun heq => hsingle [] heq
      simp [hne]
  | case3 _ _ hsingle =>
      obtain ⟨cs, rfl⟩ := List.head?_eq_some_iff.mp (of_decide_eq_true h)
      exact absurd rfl (hsingle cs)

/-- A word is accounted for among the modifiers if it is a key, or if the word before it has it as
its value: one with a dash, without an equality sign, and with a name that is a key. -/
def IsAccountedFor (modifiers : Dict) (before : List (List Char)) (word : List Char) : Prop :=
  String.ofList word ∈ modifiers.keys ∨
    ∃ previous ∈ before.getLast?, isDashed previous = true ∧ '=' ∉ previous ∧
      withoutDashes previous ≠ [] ∧ String.ofList (withoutDashes previous) ∈ modifiers.keys

/-- Words the last of which is a lone dash. -/
def EndsInLoneDash (before : List (List Char)) : Prop := ∃ word ∈ before.getLast?, IsLoneDash word

section

variable {before after : List (List Char)} {word : List Char}

/-- A lone dash and the word after it say nothing. -/
theorem collect_of_loneDash (h : EndsInLoneDash before) (hbare : isDashed word = false) :
    collect (ofWords (before ++ word :: after)) = collect (ofWords before ++ ofWords after) := by
  obtain ⟨dash, hlast, hdash⟩ := h
  obtain ⟨start, rfl⟩ := List.getLast?_eq_some_iff.mp hlast
  have htakes := hdash.takesValue
  have hname : withoutDashes dash = [] := (withoutDashes_eq_nil_iff htakes.1).mpr hdash
  have hcut : ∀ rest, AreApart start (dash :: rest) := fun rest => Or.inr (by simp [htakes.1])
  have halone : ofWords [dash] = [([], flagTrue.toList)] := by
    rw [ofWords_of_flag htakes.2 htakes.1 (by simp), hname]
    rfl
  rw [List.append_assoc, List.singleton_append, ofWords_append (hcut _),
    ofWords_append (hcut []), ofWords_of_value htakes hbare, hname, halone, List.append_assoc,
    List.singleton_append, collect_nameless, collect_nameless]

/-- The word before it has it as its value. -/
theorem isAccountedFor_of_value {last : List Char} (hlast : last ∈ before.getLast?)
    (htakes : TakesValue last) (hname : ¬ IsLoneDash last) (hbare : isDashed word = false) :
    IsAccountedFor (collect (ofWords (before ++ word :: after))) before word := by
  have hne : withoutDashes last ≠ [] := mt (withoutDashes_eq_nil_iff htakes.1).mp hname
  refine Or.inr ⟨last, hlast, htakes.1, htakes.2, hne, mem_keys_collect.mpr ⟨hne, word, ?_⟩⟩
  obtain ⟨start, rfl⟩ := List.getLast?_eq_some_iff.mp hlast
  have hcut : AreApart start (last :: word :: after) := Or.inr (by simp [htakes.1])
  rw [List.append_assoc, List.singleton_append, ofWords_append hcut,
    ofWords_of_value htakes hbare]
  exact List.mem_append_right _ List.mem_cons_self

/-- It is a flag of its own. -/
theorem isAccountedFor_of_bare (hcut : ∀ last ∈ before.getLast?, ¬ TakesValue last)
    (hne : word ≠ []) (hunassigned : '=' ∉ word) (hbare : isDashed word = false) :
    IsAccountedFor (collect (ofWords (before ++ word :: after))) before word := by
  refine Or.inl (mem_keys_collect.mpr ⟨hne, flagTrue.toList, ?_⟩)
  rw [ofWords_append (Or.inl hcut), ofWords_of_bare hunassigned hbare]
  exact List.mem_append_right _ List.mem_cons_self

end

/-- **Which words are accounted for.**  A word without a dash and without an equality sign is,
unless it comes after a lone dash and is not named before that or later as well.  The modifiers are
then those of the words before and after it, whatever the word is. -/
theorem word_accounted_iff {tail : String} {before after : List (List Char)} {word : List Char}
    (hwords : words tail.toList = before ++ word :: after) (hunassigned : '=' ∉ word)
    (hbare : isDashed word = false) :
    (IsAccountedFor (read tail) before word ↔
      (EndsInLoneDash before →
        String.ofList word ∈ (collect (ofWords before)).keys ∨
          String.ofList word ∈ (collect (ofWords after)).keys)) ∧
    (EndsInLoneDash before → ∀ key, (read tail).get? key =
      ((collect (ofWords after)).get? key).or ((collect (ofWords before)).get? key)) := by
  have hread : read tail = collect (ofWords (before ++ word :: after)) := by rw [read, hwords]
  rw [hread]
  refine ⟨⟨?_, ?_⟩, ?_⟩
  · intro haccounted hlone
    rw [collect_of_loneDash hlone hbare] at haccounted
    rcases haccounted with hkey | ⟨previous, hlast, hdashed, -, hname, -⟩
    · exact mem_keys_collect_append.mp hkey
    · obtain ⟨dash, hlast', hdash⟩ := hlone
      obtain rfl := Option.mem_unique hlast hlast'
      exact absurd ((withoutDashes_eq_nil_iff hdashed).mpr hdash) hname
  · intro hnamed
    by_cases hlone : EndsInLoneDash before
    · left
      rw [collect_of_loneDash hlone hbare]
      exact mem_keys_collect_append.mpr (hnamed hlone)
    · by_cases htakes : ∃ last ∈ before.getLast?, TakesValue last
      · obtain ⟨last, hlast, htakes⟩ := htakes
        exact isAccountedFor_of_value hlast htakes (fun hdash => hlone ⟨last, hlast, hdash⟩) hbare
      · have hne : word ≠ [] := (mem_words (by rw [hwords]; simp)).1
        exact isAccountedFor_of_bare (fun last hlast h => htakes ⟨last, hlast, h⟩) hne hunassigned
          hbare
  · intro hlone key
    rw [collect_of_loneDash hlone hbare, get?_collect_append]

/-- A lone dash that waits for nothing, and a word that another one waits for. -/
theorem word_accounted_iff_production :
    let before := ["-".toList, "--env".toList]
    (words "- --env production".toList = before ++ "production".toList :: [] ∧
      '=' ∉ "production".toList ∧ isDashed "production".toList = false) ∧
      ¬ EndsInLoneDash before ∧
      IsAccountedFor (read "- --env production") before "production".toList := by
  intro before
  have hwords : words "- --env production".toList = before ++ "production".toList :: [] := by
    decide +kernel
  have hunassigned : '=' ∉ "production".toList := by decide
  have hbare : isDashed "production".toList = false := by decide
  have hnamed : ¬ EndsInLoneDash before := by
    intro hlone
    obtain ⟨last, hlast, hdash⟩ := hlone
    obtain rfl : "--env".toList = last := Option.some.inj hlast
    rcases hdash with heq | heq <;> exact absurd heq (by decide)
  obtain ⟨haccounted, -⟩ := word_accounted_iff hwords hunassigned hbare
  exact ⟨⟨hwords, hunassigned, hbare⟩, hnamed, haccounted.mpr fun hlone => absurd hlone hnamed⟩

/-- A word that comes after two dashes: it is no key, and nothing has it as its value. -/
theorem word_lost :
    let before := ["--verbose".toList, "--".toList]
    (words "--verbose -- production".toList = before ++ "production".toList :: [] ∧
      '=' ∉ "production".toList ∧ isDashed "production".toList = false) ∧
      (read "--verbose -- production").entries = [("verbose", "true")] ∧
      ¬ IsAccountedFor (read "--verbose -- production") before "production".toList := by
  intro before
  have hentries : (read "--verbose -- production").entries = [("verbose", "true")] := by
    decide +kernel
  refine ⟨⟨by decide +kernel, by decide, by decide⟩, hentries, ?_⟩
  intro haccounted
  rcases haccounted with hkey | ⟨previous, hlast, -, -, hname, -⟩
  · rw [Dict.keys, hentries] at hkey
    exact absurd hkey (by decide)
  · obtain rfl : "--".toList = previous := Option.some.inj hlast
    exact hname rfl

end Modifiers

end Emend
