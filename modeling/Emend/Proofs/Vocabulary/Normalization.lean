import Emend.Proofs.Vocabulary
import Emend.Session

/-!
# Normal forms of vocabularies

A vocabulary is brought into form word by word, and a word that is in form stays as it is
(`wordKey_wordKey`), so doing it twice is doing it once: `normalized_normalized`.  The synonyms take a
second look, since words that differ when they are written may have the same key; but the keys that are
left are keys of their own, and the dictionary is rebuilt from its entries.

`checked_normal_form` says what a checked vocabulary is in terms of the one it was made from, that it
is the same one to everything that uses it, and that nothing but a reference that leads nowhere keeps
a vocabulary from being accepted.
-/

namespace Emend

/-! ## Lists of words -/

/-- Blank words can be left out before the keys are taken or after. -/
theorem wordKeys_eq (words : List String) :
    wordKeys words = (words.filter fun word => !isBlankText word).map wordKey := by
  have hblank : words.filter ((fun key => decide (key ≠ "")) ∘ wordKey) =
      words.filter fun word => !isBlankText word := by
    apply List.filter_congr
    intro word _
    simp [wordKey_eq_empty_iff]
  rw [wordKeys, List.filter_map, hblank]

/-- The keys of a list of words, without the empty one. -/
theorem mem_wordKeys {word : String} {words : List String} :
    word ∈ wordKeys words ↔ word ≠ "" ∧ ∃ entry ∈ words, wordKey entry = word := by
  rw [wordKeys, List.mem_filter, List.mem_map, decide_eq_true_eq, and_comm]

/-- What is left in a list of keys is a key. -/
theorem key_of_mem_wordKeys {word : String} {words : List String} (h : word ∈ wordKeys words) :
    word ≠ "" ∧ wordKey word = word := by
  obtain ⟨hne, entry, -, rfl⟩ := mem_wordKeys.mp h
  exact ⟨hne, wordKey_wordKey entry⟩

namespace Vocabulary

/-- What is found in a list of keys: the words that some entry comes to. -/
theorem lists_wordKeys_iff {entries : List String} {word : String} :
    lists (wordKeys entries) word = true ↔
      word ≠ "" ∧ ∃ entry ∈ entries, lowercase (trimmed entry) = lowercase word := by
  rw [lists, List.contains_iff_mem, mem_wordKeys, ne_eq, lowercase_eq_empty_iff]
  rfl

/-! ## Normalizing twice -/

/-- Every synonym of a normalized vocabulary comes from one as it was written. -/
theorem exists_of_mem_normalized_synonyms {v : Vocabulary} {e : String × String}
    (h : e ∈ v.normalized.synonyms.entries) :
    ∃ source ∈ v.synonyms.entries, e = (wordKey source.1, wordKey source.2) := by
  have hget : v.normalized.synonyms.get? e.1 = some e.2 := (Dict.get?_eq_some_iff _).mpr h
  obtain ⟨source, hsource, heq⟩ := List.mem_map.mp (Dict.mem_of_get?_ofList hget)
  exact ⟨source, hsource, heq.symm⟩

/-- The synonyms of a normalized vocabulary are keys, and so are their meanings. -/
theorem key_of_mem_normalized_synonyms {v : Vocabulary} {e : String × String}
    (h : e ∈ v.normalized.synonyms.entries) : wordKey e.1 = e.1 ∧ wordKey e.2 = e.2 := by
  obtain ⟨source, -, rfl⟩ := exists_of_mem_normalized_synonyms h
  exact ⟨wordKey_wordKey source.1, wordKey_wordKey source.2⟩

/-- The words of a normalized vocabulary are keys. -/
theorem key_of_mem_normalized {v : Vocabulary} {word : String}
    (h : word ∈ v.normalized.intents ++ v.normalized.targetRequired ++ v.normalized.targets) :
    word ≠ "" ∧ wordKey word = word := by
  simp only [List.mem_append] at h
  rcases h with (hintent | hrequired) | htarget
  · exact key_of_mem_wordKeys hintent
  · exact key_of_mem_wordKeys hrequired
  · exact key_of_mem_wordKeys htarget

/-- **Normalizing is idempotent.** -/
theorem normalized_normalized (v : Vocabulary) : v.normalized.normalized = v.normalized := by
  refine normalized_eq_self (trimmed_trimmed v.programName) (fun _ => key_of_mem_normalized)
    (wordKey_wordKey v.defaultIntent) ?_
  intro e he
  obtain ⟨hword, hintent⟩ := key_of_mem_normalized_synonyms he
  exact Prod.ext hword hintent

/-! ## Checking -/

/-- A vocabulary with intents in which every reference to one leads to a declared one. -/
structure Closed (v : Vocabulary) : Prop where
  intents_ne : v.intents ≠ []
  default_declared : v.defaultIntent ∈ v.intents
  required_declared : ∀ word ∈ v.targetRequired, word ∈ v.intents
  synonym_declared : ∀ intent ∈ v.synonyms.values, intent ∈ v.intents

/-- A normalized vocabulary is valid if it is closed. -/
theorem validate_normalized_iff (v : Vocabulary) :
    v.normalized.validate = .ok () ↔ v.normalized.Closed := by
  have hdefault : v.normalized.isIntent v.normalized.defaultIntent = true ↔
      v.normalized.defaultIntent ∈ v.normalized.intents :=
    isIntent_iff_mem_of_key (wordKey_wordKey v.defaultIntent)
  have hrequired : ∀ word ∈ v.normalized.targetRequired,
      (v.normalized.isIntent word = true ↔ word ∈ v.normalized.intents) := by
    intro word hword
    exact isIntent_iff_mem_of_key (key_of_mem_wordKeys hword).2
  have hsynonyms : ∀ intent ∈ v.normalized.synonyms.values,
      (v.normalized.isIntent intent = true ↔ intent ∈ v.normalized.intents) := by
    intro intent hintent
    obtain ⟨e, he, rfl⟩ := List.mem_map.mp hintent
    exact isIntent_iff_mem_of_key (key_of_mem_normalized_synonyms he).2
  rw [validate_eq_ok_iff, hdefault, forall₂_congr hrequired, forall₂_congr hsynonyms]
  exact ⟨fun h => ⟨h.1, h.2.1, h.2.2.1, h.2.2.2⟩, fun h => ⟨h.1, h.2, h.3, h.4⟩⟩

/-- A vocabulary is accepted if its normal form is closed. -/
theorem checked_of_closed {v : Vocabulary} (h : v.normalized.Closed) :
    v.checked = .ok v.normalized :=
  checked_eq_ok_iff.mpr ⟨rfl, (validate_normalized_iff v).mpr h⟩

/-- What is accepted is the normal form, and it is closed. -/
theorem closed_of_checked {v n : Vocabulary} (h : v.checked = .ok n) :
    v.normalized = n ∧ v.normalized.Closed := by
  obtain ⟨hnormal, hvalid⟩ := checked_eq_ok_iff.mp h
  rw [← hnormal, validate_normalized_iff] at hvalid
  exact ⟨hnormal, hvalid⟩

/-- A vocabulary is accepted exactly if its normal form is closed. -/
theorem accepted_iff_closed {v : Vocabulary} :
    (∃ n, v.checked = .ok n) ↔ v.normalized.Closed := by
  constructor
  · intro h
    obtain ⟨n, hn⟩ := h
    exact (closed_of_checked hn).2
  · intro h
    exact ⟨_, checked_of_closed h⟩

/-- What the words of a vocabulary in form have to do with those it was made from. -/
structure IsNormalFormOf (n v : Vocabulary) : Prop where
  entry_key : ∀ word ∈ n.intents ++ n.targetRequired ++ n.targets,
    word ≠ "" ∧ wordKey word = word
  default_key : wordKey n.defaultIntent = n.defaultIntent
  synonym_key : ∀ e ∈ n.synonyms.entries, wordKey e.1 = e.1 ∧ wordKey e.2 = e.2
  intents : n.intents = (v.intents.filter fun word => !isBlankText word).map wordKey
  targetRequired :
    n.targetRequired = (v.targetRequired.filter fun word => !isBlankText word).map wordKey
  targets : n.targets = (v.targets.filter fun word => !isBlankText word).map wordKey
  isIntent : ∀ word, n.isIntent word = true ↔
    word ≠ "" ∧ ∃ entry ∈ v.intents, lowercase (trimmed entry) = lowercase word
  isTarget : ∀ word, n.isTarget word = true ↔
    word ≠ "" ∧ ∃ entry ∈ v.targets, lowercase (trimmed entry) = lowercase word
  requiresTarget : ∀ word, n.requiresTarget word = true ↔
    word ≠ "" ∧ ∃ entry ∈ v.targetRequired, lowercase (trimmed entry) = lowercase word

/-- Normalizing leads to the normal form. -/
theorem isNormalFormOf_normalized (v : Vocabulary) : v.normalized.IsNormalFormOf v where
  entry_key := fun _ => key_of_mem_normalized
  default_key := wordKey_wordKey _
  synonym_key := fun _ => key_of_mem_normalized_synonyms
  intents := wordKeys_eq _
  targetRequired := wordKeys_eq _
  targets := wordKeys_eq _
  isIntent := fun _ => lists_wordKeys_iff
  isTarget := fun _ => lists_wordKeys_iff
  requiresTarget := fun _ => lists_wordKeys_iff

/-- **What checking comes to.**  A checked vocabulary is in form, closed, and its own checked form, so
that it makes no difference to a session, and to all that is read and repaired in it, which of the
two it is given.  And a vocabulary is accepted exactly if its normal form is closed. -/
theorem checked_normal_form (v : Vocabulary) :
    (∀ n, v.checked = .ok n →
      n.IsNormalFormOf v ∧ n.Closed ∧ n.checked = .ok n ∧
        ∀ s : Session, s.step (.useVocabulary (.given n)) = s.step (.useVocabulary (.given v))) ∧
      ((∃ n, v.checked = .ok n) ↔ v.normalized.Closed) := by
  refine ⟨?_, fun h => ?_, fun h => ⟨_, checked_of_closed h⟩⟩
  · intro n hn
    obtain ⟨rfl, hclosed⟩ := closed_of_checked hn
    have hagain : v.normalized.checked = .ok v.normalized := by
      rw [checked_of_closed] <;> rw [normalized_normalized]
      exact hclosed
    refine ⟨isNormalFormOf_normalized v, hclosed, hagain, ?_⟩
    intro s
    simp only [Session.step, VocabularySource.loadChecked, VocabularySource.load, hagain, hn]
  · obtain ⟨n, hn⟩ := h
    exact (closed_of_checked hn).2

/-- Blanks around and between the entries, capitals, a capital sigma that ends a word, and two
synonyms that become one. -/
theorem checked_normal_form_careless :
    let v : Vocabulary :=
      { programName := " ops ", intents := [" Scan", "  ", "ΤΕΛΟΣ "], targetRequired := ["SCAN"],
        defaultIntent := "ΤΕΛΟΣ", targets := ["", "Node"],
        synonyms := .ofList [(" look", "ΤΕΛΟΣ"), ("Look", " scan ")] }
    let n : Vocabulary :=
      { programName := "ops", intents := ["scan", "τελος"], targetRequired := ["scan"],
        defaultIntent := "τελος", targets := ["node"], synonyms := .ofList [("look", "scan")] }
    v.checked = .ok n ∧
      (n.IsNormalFormOf v ∧ n.Closed ∧ n.checked = .ok n ∧
        ∀ s : Session, s.step (.useVocabulary (.given n)) =
          s.step (.useVocabulary (.given v))) ∧
      v.normalized.Closed := by
  intro v n
  have hn : v.checked = .ok n := by decide +kernel
  obtain ⟨hform, haccepted⟩ := checked_normal_form v
  exact ⟨hn, hform n hn, haccepted.mp ⟨n, hn⟩⟩

end Vocabulary

end Emend
