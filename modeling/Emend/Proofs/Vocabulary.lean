import Emend.Grammar
import Emend.Proofs.Text.Trimming

/-!
# What checking a vocabulary establishes

A vocabulary comes out of `checked` with every word in the form under which it is looked up and
with every reference to an intent leading to a declared one.  `Consistent` collects these
facts, and everything that is proved of repairs and of reading lines starts from
`checked_consistent`; how a vocabulary is normalized plays no part after that.

The second half is the test that all repairs have to pass: `validateCommand_eq_ok_iff` says
which commands are grammatical, and `approve_eq_some_iff` what comes of approving one.
-/

namespace Emend

/-- A word in the form under which it is looked up, and not the empty one. -/
def IsEntry (word : String) : Prop := word ≠ "" ∧ lowercase word = word

theorem wordKey_lowercase (word : String) : lowercase (wordKey word) = wordKey word :=
  lowercase_lowercase _

/-- A key is its own key. -/
theorem wordKey_wordKey (word : String) : wordKey (wordKey word) = wordKey word := by
  unfold wordKey
  rw [← lowercase_trimmed, trimmed_trimmed, lowercase_lowercase]

/-- The key of a blank word is empty, and of no other. -/
theorem wordKey_eq_empty_iff {word : String} : wordKey word = "" ↔ isBlankText word = true := by
  rw [wordKey, lowercase_eq_empty_iff, ← String.toList_eq_nil_iff, trimmed, String.toList_ofList,
    trim_eq_nil_iff, isBlankText, List.all_eq_true]

/-- Whether a word can be seen to be its own key: it has no blanks and no capital letters, and is
not empty. -/
def isPlainWord (word : String) : Bool :=
  decide (word ≠ "") && word.toList.all fun c => !isBlank c && decide (IsSettled c)

/-- What passes the test is its own key. -/
theorem key_of_isPlainWord {word : String} (h : isPlainWord word = true) :
    word ≠ "" ∧ wordKey word = word := by
  simp only [isPlainWord, Bool.and_eq_true, decide_eq_true_eq, List.all_eq_true,
    Bool.not_eq_true'] at h
  obtain ⟨hne, hplain⟩ := h
  have htrim : trim word.toList = word.toList :=
    trim_eq_self (fun c hc => (hplain c (List.mem_of_head? hc)).1)
      (fun c hc => (hplain c (List.mem_of_getLast? hc)).1)
  refine ⟨hne, ?_⟩
  rw [wordKey, lowercase, trimmed, String.toList_ofList, htrim, lower,
    lowerFrom_eq_self (fun c hc => (hplain c hc).2), String.ofList_toList]

/-- Keys are left as they are. -/
theorem wordKeys_eq_self {words : List String}
    (h : ∀ word ∈ words, word ≠ "" ∧ wordKey word = word) : wordKeys words = words := by
  have hmap : words.map wordKey = words :=
    (List.map_congr_left fun word hword => (h word hword).2).trans (List.map_id _)
  rw [wordKeys, hmap, List.filter_eq_self]
  intro word hword
  simpa using (h word hword).1

/-- What is left of a list of words are entries. -/
theorem isEntry_of_mem_wordKeys {word : String} {words : List String}
    (h : word ∈ wordKeys words) : IsEntry word := by
  obtain ⟨hmem, hne⟩ := List.mem_filter.mp h
  obtain ⟨source, -, rfl⟩ := List.mem_map.mp hmem
  exact ⟨by simpa using hne, wordKey_lowercase source⟩

namespace Vocabulary

/-- A vocabulary whose words are entries and whose references lead to declared intents. -/
structure Consistent (v : Vocabulary) : Prop where
  program_trimmed : ∃ text, v.programName.toList = trim text
  intent_entry : ∀ word ∈ v.intents, IsEntry word
  required_entry : ∀ word ∈ v.targetRequired, IsEntry word
  target_entry : ∀ word ∈ v.targets, IsEntry word
  required_declared : ∀ word ∈ v.targetRequired, word ∈ v.intents
  default_declared : v.defaultIntent ∈ v.intents
  synonym_declared : ∀ word intent, v.synonyms.get? word = some intent → intent ∈ v.intents

/-! ## Look-ups -/

/-- An intent is looked up in lower case. -/
theorem isIntent_iff {v : Vocabulary} {word : String} :
    v.isIntent word = true ↔ lowercase word ∈ v.intents := List.contains_iff_mem

theorem isTarget_iff {v : Vocabulary} {word : String} :
    v.isTarget word = true ↔ lowercase word ∈ v.targets := List.contains_iff_mem

theorem requiresTarget_iff {v : Vocabulary} {word : String} :
    v.requiresTarget word = true ↔ lowercase word ∈ v.targetRequired := List.contains_iff_mem

/-! ## Words that differ in nothing but case -/

section LetterCase

variable (v : Vocabulary) {a b : String} (h : lowercase a = lowercase b)
include h

theorem isIntent_congr : v.isIntent a = v.isIntent b := congrArg v.intents.contains h

theorem isTarget_congr : v.isTarget a = v.isTarget b := congrArg v.targets.contains h

theorem synonym?_congr : v.synonym? a = v.synonym? b := congrArg v.synonyms.get? h

end LetterCase

/-! ## Checking -/

/-- None is found if all words are declared. -/
theorem firstUndeclared?_eq_none_iff {v : Vocabulary} {words : List String} :
    v.firstUndeclared? words = none ↔ ∀ word ∈ words, v.isIntent word = true := by
  simp [firstUndeclared?]

/-- What `validate` looks for: some intent, and every reference declared. -/
theorem validate_eq_ok_iff {v : Vocabulary} :
    v.validate = .ok () ↔
      v.intents ≠ [] ∧ v.isIntent v.defaultIntent = true ∧
        (∀ word ∈ v.targetRequired, v.isIntent word = true) ∧
        ∀ word ∈ v.synonyms.values, v.isIntent word = true := by
  rw [← firstUndeclared?_eq_none_iff, ← firstUndeclared?_eq_none_iff, validate]
  by_cases hnone : v.intents = []
  · simp [hnone]
  by_cases hdefault : v.isIntent v.defaultIntent = true
  · cases hrequired : v.firstUndeclared? v.targetRequired with
    | some intent => simp [hnone, hdefault]
    | none =>
        cases hsynonyms : v.firstUndeclared? v.synonyms.values with
        | some intent => simp [hnone, hdefault]
        | none => simp [hnone, hdefault]
  · simp [hnone, hdefault]

/-- A checked vocabulary is the normal form, and valid. -/
theorem checked_eq_ok_iff {v n : Vocabulary} :
    v.checked = .ok n ↔ v.normalized = n ∧ n.validate = .ok () := by
  unfold checked
  cases hvalidate : v.normalized.validate with
  | ok _ =>
      constructor
      · intro h
        cases h
        exact ⟨rfl, hvalidate⟩
      · intro h
        rw [h.1]
  | error e =>
      constructor
      · intro h
        cases h
      · intro h
        rw [h.1, h.2] at hvalidate
        cases hvalidate

/-- A declared intent that is its own key is in the list itself. -/
theorem mem_intents_of_isIntent {v : Vocabulary} {word : String} (h : v.isIntent word = true)
    (hkey : lowercase word = word) : word ∈ v.intents := by
  rw [isIntent_iff, hkey] at h
  exact h

/-- **Checking establishes consistency.** -/
theorem checked_consistent {v n : Vocabulary} (h : v.checked = .ok n) : n.Consistent := by
  obtain ⟨hnormal, hvalid⟩ := checked_eq_ok_iff.mp h
  obtain ⟨-, hdefault, hrequired, hsynonyms⟩ := validate_eq_ok_iff.mp hvalid
  subst hnormal
  refine ⟨⟨v.programName.toList, ?_⟩, fun _ => isEntry_of_mem_wordKeys,
    fun _ => isEntry_of_mem_wordKeys, fun _ => isEntry_of_mem_wordKeys, ?_, ?_, ?_⟩
  · simp [normalized, trimmed]
  · intro word hword
    exact mem_intents_of_isIntent (hrequired word hword) (isEntry_of_mem_wordKeys hword).2
  · exact mem_intents_of_isIntent hdefault (wordKey_lowercase _)
  · intro word intent hget
    have hvalue : intent ∈ v.normalized.synonyms.values :=
      List.mem_map.mpr ⟨(word, intent), (Dict.get?_eq_some_iff _).mp hget, rfl⟩
    obtain ⟨e, -, he⟩ := List.mem_map.mp (Dict.mem_of_get?_ofList hget)
    obtain ⟨-, hkey⟩ := Prod.mk.inj he
    apply mem_intents_of_isIntent (hsynonyms intent hvalue)
    rw [← hkey]
    exact wordKey_lowercase e.2

/-- Among keys, a word is looked up as it is. -/
theorem isIntent_iff_mem_of_key {v : Vocabulary} {word : String} (hkey : wordKey word = word) :
    v.isIntent word = true ↔ word ∈ v.intents := by
  have hlower : lowercase word = word := by
    rw [← hkey]
    exact wordKey_lowercase word
  rw [isIntent_iff, hlower]

/-- A vocabulary that is written in keys is in form. -/
theorem normalized_eq_self {v : Vocabulary} (hname : trimmed v.programName = v.programName)
    (hentries : ∀ word ∈ v.intents ++ v.targetRequired ++ v.targets,
      word ≠ "" ∧ wordKey word = word)
    (hdefault : wordKey v.defaultIntent = v.defaultIntent)
    (hsynonyms : ∀ e ∈ v.synonyms.entries, (wordKey e.1, wordKey e.2) = e) :
    v.normalized = v := by
  have hmap : v.synonyms.entries.map (fun e => (wordKey e.1, wordKey e.2)) = v.synonyms.entries :=
    (List.map_congr_left hsynonyms).trans (List.map_id _)
  simp only [List.mem_append] at hentries
  rw [normalized, hname, hdefault, hmap, Dict.ofList_entries,
    wordKeys_eq_self fun word hword => hentries word (.inl (.inl hword)),
    wordKeys_eq_self fun word hword => hentries word (.inl (.inr hword)),
    wordKeys_eq_self fun word hword => hentries word (.inr hword)]

/-! ## The built-in vocabulary -/

/-- The built-in intents and targets can be seen to be keys. -/
theorem builtIn_entries : (builtInIntents ++ builtInTargets).all isPlainWord = true := by
  decide +kernel

/-- The built-in synonyms are keys and stand for built-in intents. -/
theorem builtIn_synonyms {e : String × String} (h : e ∈ builtIn.synonyms.entries) :
    wordKey e.1 = e.1 ∧ e.2 ∈ builtInIntents := by
  have hlisted : (builtInSynonyms.all fun s =>
      builtInIntents.contains s.1 && s.2.all isPlainWord) = true := by
    decide +kernel
  obtain ⟨key, intent⟩ := e
  have hmem := Dict.mem_of_get?_ofList ((Dict.get?_eq_some_iff _).mpr h)
  obtain ⟨s, hs, hpair⟩ := List.mem_flatMap.mp hmem
  obtain ⟨word, hword, heq⟩ := List.mem_map.mp hpair
  obtain ⟨rfl, rfl⟩ := Prod.mk.inj heq
  obtain ⟨hintent, hplain⟩ := (Bool.and_eq_true _ _).mp (List.all_eq_true.mp hlisted s hs)
  exact ⟨(key_of_isPlainWord (List.all_eq_true.mp hplain _ hword)).2,
    List.contains_iff_mem.mp hintent⟩

/-- The built-in vocabulary is in order as it stands. -/
theorem builtIn_checked : builtIn.checked = .ok builtIn := by
  have hentry : ∀ word ∈ builtInIntents ++ builtInTargets, word ≠ "" ∧ wordKey word = word :=
    fun word hword => key_of_isPlainWord (List.all_eq_true.mp builtIn_entries word hword)
  have hintent : ∀ word ∈ builtInIntents, wordKey word = word :=
    fun word hword => (hentry word (List.mem_append_left _ hword)).2
  have hrequired : builtIn.targetRequired ⊆ builtInIntents := by
    decide
  have hdefault : builtIn.defaultIntent ∈ builtInIntents := by
    decide
  have hdeclared : ∀ word ∈ builtInIntents, builtIn.isIntent word = true :=
    fun word hword => (isIntent_iff_mem_of_key (hintent word hword)).mpr hword
  refine checked_eq_ok_iff.mpr ⟨normalized_eq_self ?_ ?_ (hintent _ hdefault) ?_,
    validate_eq_ok_iff.mpr ⟨?_, hdeclared _ hdefault, ?_, ?_⟩⟩
  · decide +kernel
  · intro word hword
    rcases List.mem_append.mp hword with hword | hword
    · rcases List.mem_append.mp hword with hword | hword
      · exact hentry word (List.mem_append_left _ hword)
      · exact hentry word (List.mem_append_left _ (hrequired hword))
    · exact hentry word (List.mem_append_right _ hword)
  · intro e he
    obtain ⟨hkey, hvalue⟩ := builtIn_synonyms he
    exact Prod.ext hkey (hintent _ hvalue)
  · exact List.cons_ne_nil _ _
  · exact fun word hword => hdeclared word (hrequired hword)
  · intro word hword
    obtain ⟨e, he, rfl⟩ := List.mem_map.mp hword
    exact hdeclared _ (builtIn_synonyms he).2

/-! ## Grammatical commands -/

/-- A command has a target if that is not empty. -/
theorem hasTarget_iff {c : Command} : c.hasTarget = true ↔ c.target ≠ "" := by
  simp [Command.hasTarget]

/-- **Which commands are grammatical**: those of a declared intent, with a target if the
intent needs one. -/
theorem validateCommand_eq_ok_iff {v : Vocabulary} {c : Command} :
    v.validateCommand c = .ok () ↔
      c.intent ≠ "" ∧ lowercase c.intent ∈ v.intents ∧
        (lowercase c.intent ∈ v.targetRequired → c.target ≠ "") := by
  rw [← isIntent_iff, ← requiresTarget_iff, ← hasTarget_iff]
  unfold validateCommand
  by_cases hintent : c.intent = ""
  · simp [hintent]
  by_cases hdeclared : v.isIntent c.intent = true
  · by_cases hrequired : v.requiresTarget c.intent = true
    · by_cases htarget : c.hasTarget = true <;> simp [hintent, hdeclared, hrequired, htarget]
    · simp [hintent, hdeclared, hrequired]
  · simp [hintent, hdeclared]

/-- What a command of a declared intent can lack is a target. -/
theorem Consistent.target_eq_empty {v : Vocabulary} (hv : v.Consistent) {c : Command}
    (hdeclared : lowercase c.intent ∈ v.intents) (hinvalid : v.validateCommand c ≠ .ok ()) :
    c.target = "" := by
  by_contra htarget
  apply hinvalid
  rw [validateCommand_eq_ok_iff]
  refine ⟨?_, hdeclared, fun _ => htarget⟩
  intro hempty
  rw [hempty] at hdeclared
  exact (hv.intent_entry _ hdeclared).1 rfl

/-- **What approval does**: it marks a grammatical command and changes nothing else. -/
theorem approve_eq_some_iff {v : Vocabulary} {c d : Command} :
    v.approve c = some d ↔ v.validateCommand c = .ok () ∧ c.withValidity true = d := by
  unfold approve
  cases h : v.validateCommand c with
  | ok _ => simp
  | error e => simp

theorem approve_isSome_iff {v : Vocabulary} {c : Command} :
    (v.approve c).isSome = true ↔ v.validateCommand c = .ok () := by
  unfold approve
  cases h : v.validateCommand c with
  | ok _ => simp
  | error e => simp

/-- A restated command is grammatical if its intent is an entry that needs no target or
has one. -/
theorem Consistent.approve_restate_isSome {v : Vocabulary} (hv : v.Consistent) {c : Command}
    {intent target : String} (hintent : intent ∈ v.intents) :
    (v.approve (c.restate intent target)).isSome = true ↔
      (target ≠ "" ∨ intent ∉ v.targetRequired) := by
  obtain ⟨hne, hkey⟩ := hv.intent_entry intent hintent
  rw [approve_isSome_iff, validateCommand_eq_ok_iff]
  simp only [Command.restate, hkey]
  constructor
  · intro h
    by_cases hrequired : intent ∈ v.targetRequired
    · exact Or.inl (h.2.2 hrequired)
    · exact Or.inr hrequired
  · intro h
    refine ⟨hne, hintent, fun hrequired => ?_⟩
    rcases h with htarget | hnot
    · exact htarget
    · exact absurd hrequired hnot

/-- What comes of approving such a command. -/
theorem Consistent.approve_restate {v : Vocabulary} (hv : v.Consistent) (c : Command)
    {intent target : String} (hintent : intent ∈ v.intents)
    (hneeds : target ≠ "" ∨ intent ∉ v.targetRequired) :
    v.approve (c.restate intent target) = some ((c.restate intent target).withValidity true) := by
  have happroved := (hv.approve_restate_isSome (c := c) hintent).mpr hneeds
  exact approve_eq_some_iff.mpr ⟨approve_isSome_iff.mp happroved, rfl⟩

end Vocabulary

end Emend
