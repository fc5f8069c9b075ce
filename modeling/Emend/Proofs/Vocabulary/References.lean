import Emend.Proofs.Dict
import Emend.Proofs.Vocabulary.Normalization

/-!
# References as they are written

Every intent that a vocabulary refers to has to be declared, and it is the normal form that is held
against this rule.  On the way to it references can get lost.  Of synonyms whose words come to the
same key only one is left, and what the others stood for is not looked at: `synonyms_kept_iff` says
which are in force and when all are kept, and `synonym_overwritten` shows one that leads nowhere and
is not noticed.

Nothing else comes in between.  A vocabulary in which all references are found as they are written
is accepted, unless one of them is blank, so that what it leads to is dropped (`valid_accepted`).
-/

namespace Emend

/-- The case of its letters plays no part in the key of a word. -/
theorem wordKey_of_lowercase (word : String) : wordKey (lowercase word) = wordKey word := by
  unfold wordKey
  rw [← lowercase_trimmed, lowercase_lowercase]

/-- A blank word is one in every case. -/
theorem isBlankText_lowercase (word : String) :
    isBlankText (lowercase word) = isBlankText word := by
  rw [Bool.eq_iff_iff, ← wordKey_eq_empty_iff, wordKey_of_lowercase, wordKey_eq_empty_iff]

namespace Vocabulary

/-! ## Synonyms in force -/

/-- A synonym as it is written that no other one overwrites: the last of those with its key. -/
structure InForce (v : Vocabulary) (e : String × String) : Prop where
  mem : e ∈ v.synonyms.entries
  last : ∀ f ∈ v.synonyms.entries, wordKey f.1 = wordKey e.1 → f.1 ≤ e.1

instance (v : Vocabulary) (e : String × String) : Decidable (v.InForce e) :=
  decidable_of_iff
    (e ∈ v.synonyms.entries ∧ ∀ f ∈ v.synonyms.entries, wordKey f.1 = wordKey e.1 → f.1 ≤ e.1)
    ⟨fun h => ⟨h.1, h.2⟩, fun h => ⟨h.1, h.2⟩⟩

section

variable {v : Vocabulary}

/-- The synonyms of a normalized vocabulary are those in force. -/
theorem get?_normalized_synonyms {key intent : String} :
    v.normalized.synonyms.get? key = some intent ↔
      ∃ e, v.InForce e ∧ wordKey e.1 = key ∧ wordKey e.2 = intent := by
  have hlast : v.normalized.synonyms.get? key =
      (v.synonyms.entries.filter fun e => wordKey e.1 = key).getLast?.map fun e => wordKey e.2 :=
    Dict.get?_ofList_map wordKey wordKey v.synonyms.entries key
  rw [hlast, Option.map_eq_some_iff]
  simp only [Dict.getLast?_filter_eq_some_iff]
  constructor
  · rintro ⟨e, ⟨⟨hmem, rfl⟩, hgreatest⟩, rfl⟩
    exact ⟨e, ⟨hmem, hgreatest⟩, rfl, rfl⟩
  · rintro ⟨e, ⟨hmem, hgreatest⟩, rfl, rfl⟩
    exact ⟨e, ⟨⟨hmem, rfl⟩, hgreatest⟩, rfl⟩

/-- The meanings that are left are those of the synonyms in force. -/
theorem mem_values_normalized_iff {intent : String} :
    intent ∈ v.normalized.synonyms.values ↔ ∃ e, v.InForce e ∧ wordKey e.2 = intent := by
  rw [Dict.values, List.mem_map]
  constructor
  · rintro ⟨entry, hentry, rfl⟩
    obtain ⟨e, he, -, hvalue⟩ :=
      get?_normalized_synonyms.mp ((Dict.get?_eq_some_iff _).mpr hentry)
    exact ⟨e, he, hvalue⟩
  · rintro ⟨e, he, hvalue⟩
    have hget : v.normalized.synonyms.get? (wordKey e.1) = some intent :=
      get?_normalized_synonyms.mpr ⟨e, he, rfl, hvalue⟩
    exact ⟨_, (Dict.get?_eq_some_iff _).mp hget, rfl⟩

/-- Each synonym is in force or overwritten by one that is. -/
theorem exists_inForce {e : String × String} (h : e ∈ v.synonyms.entries) :
    ∃ f, v.InForce f ∧ wordKey f.1 = wordKey e.1 := by
  obtain ⟨f, hf⟩ := Dict.exists_getLast?_filter (p := fun f => wordKey f.1 = wordKey e.1) h rfl
  obtain ⟨⟨hmem, hkey⟩, hlast⟩ := Dict.getLast?_filter_eq_some_iff.mp hf
  exact ⟨f, ⟨hmem, fun g hg hgkey => hlast g hg (hgkey.trans hkey)⟩, hkey⟩

end

/-! ## Accepted synonyms -/

/-- The vocabulary with no synonyms. -/
def withoutSynonyms (v : Vocabulary) : Vocabulary := { v with synonyms := ∅ }

/-- Of the synonyms, only those in force are held against the declared intents. -/
theorem closed_normalized_iff {v : Vocabulary} :
    v.normalized.Closed ↔ v.withoutSynonyms.normalized.Closed ∧
      ∀ e, v.InForce e → wordKey e.2 ∈ v.normalized.intents := by
  constructor
  · intro h
    refine ⟨⟨h.intents_ne, h.default_declared, h.required_declared, ?_⟩, ?_⟩
    · intro intent hintent
      cases hintent
    · intro e he
      exact h.synonym_declared _ (mem_values_normalized_iff.mpr ⟨e, he, rfl⟩)
  · rintro ⟨h, hdeclared⟩
    refine ⟨h.intents_ne, h.default_declared, h.required_declared, ?_⟩
    intro intent hintent
    obtain ⟨e, he, rfl⟩ := mem_values_normalized_iff.mp hintent
    exact hdeclared e he

/-- A synonym as it is written that is still one: what it stands for is a declared intent, and it is
what its word is looked up as. -/
structure KeepsSynonym (n : Vocabulary) (e : String × String) : Prop where
  declared : wordKey e.2 ∈ n.intents
  found : n.synonym? (trimmed e.1) = some (wordKey e.2)

section

variable {v : Vocabulary} (h : v.normalized.Closed) {e f : String × String}
include h

/-- A synonym in force is kept. -/
theorem keepsSynonym_of_inForce (hf : v.InForce f) : v.normalized.KeepsSynonym f where
  declared := (closed_normalized_iff.mp h).2 f hf
  found := get?_normalized_synonyms.mpr ⟨f, hf, rfl, rfl⟩

/-- An overwritten synonym is kept where it stands for the same as that in force. -/
theorem keepsSynonym_iff (hf : v.InForce f) (hkey : wordKey f.1 = wordKey e.1) :
    v.normalized.KeepsSynonym e ↔ wordKey e.2 = wordKey f.2 := by
  obtain ⟨hdeclared, hfound⟩ := keepsSynonym_of_inForce h hf
  have hsame : v.normalized.synonym? (trimmed f.1) = v.normalized.synonym? (trimmed e.1) :=
    v.normalized.synonym?_congr hkey
  constructor
  · intro hkept
    exact Option.some.inj (hkept.found.symm.trans (hsame.symm.trans hfound))
  · intro hvalue
    rw [← hvalue] at hdeclared hfound
    exact ⟨hdeclared, hsame.symm.trans hfound⟩

end

/-- **What becomes of synonyms.**  A vocabulary is accepted if and only if it would be without them
and those in force stand for declared intents.  Then each synonym as it is written has one in force
with its key, which is kept, and is itself kept if and only if it stands for the same; so all of
them are if and only if those with the same key agree. -/
theorem synonyms_kept_iff (v : Vocabulary) :
    ((∃ n, v.checked = .ok n) ↔ (∃ n, v.withoutSynonyms.checked = .ok n) ∧
      ∀ e, v.InForce e → wordKey e.2 ∈ v.normalized.intents) ∧
    ∀ n, v.checked = .ok n →
      (∀ e ∈ v.synonyms.entries, ∃ f, v.InForce f ∧ wordKey f.1 = wordKey e.1 ∧
        n.KeepsSynonym f ∧ (n.KeepsSynonym e ↔ wordKey e.2 = wordKey f.2)) ∧
      ((∀ e ∈ v.synonyms.entries, n.KeepsSynonym e) ↔
        ∀ e ∈ v.synonyms.entries, ∀ f ∈ v.synonyms.entries,
          wordKey e.1 = wordKey f.1 → wordKey e.2 = wordKey f.2) := by
  refine ⟨?_, ?_⟩
  · rw [accepted_iff_closed, accepted_iff_closed, closed_normalized_iff]
  · intro n hn
    obtain ⟨rfl, hclosed⟩ := closed_of_checked hn
    refine ⟨?_, ?_⟩
    · intro e he
      obtain ⟨f, hf, hkey⟩ := exists_inForce he
      exact ⟨f, hf, hkey, keepsSynonym_of_inForce hclosed hf, keepsSynonym_iff hclosed hf hkey⟩
    · constructor
      · intro hkept e he f hf hkey
        have hsame : v.normalized.synonym? (trimmed e.1) = v.normalized.synonym? (trimmed f.1) :=
          v.normalized.synonym?_congr hkey
        exact Option.some.inj ((hkept e he).found.symm.trans (hsame.trans (hkept f hf).found))
      · intro hagree e he
        obtain ⟨f, hf, hkey⟩ := exists_inForce he
        exact (keepsSynonym_iff hclosed hf hkey).mpr (hagree e he f hf.mem hkey.symm)

/-- Two synonyms become one, and nothing is lost. -/
theorem synonyms_kept_iff_show :
    let v : Vocabulary :=
      { programName := "ops", intents := ["Scan", "status"], targetRequired := [],
        defaultIntent := "status", targets := [],
        synonyms := .ofList [(" Show", "STATUS"), ("show ", " status"), ("Check", "scan")] }
    ∃ n, v.checked = .ok n ∧ n.synonyms.entries = [("check", "scan"), ("show", "status")] ∧
      v.InForce ("show ", " status") ∧ ¬ v.InForce (" Show", "STATUS") ∧
      (∀ e, v.InForce e → wordKey e.2 ∈ v.normalized.intents) ∧
      ∀ e ∈ v.synonyms.entries, n.KeepsSynonym e := by
  intro v
  have hn : v.checked = .ok v.normalized := checked_eq_ok_iff.mpr ⟨rfl, by decide +kernel⟩
  have hagree : ∀ e ∈ v.synonyms.entries, ∀ f ∈ v.synonyms.entries,
      wordKey e.1 = wordKey f.1 → wordKey e.2 = wordKey f.2 := by
    decide +kernel
  obtain ⟨haccepted, hkept⟩ := synonyms_kept_iff v
  exact ⟨v.normalized, hn, by decide +kernel, by decide +kernel, by decide +kernel,
    (haccepted.mp ⟨_, hn⟩).2, (hkept _ hn).2.mpr hagree⟩

/-- A synonym for an intent that does not exist.  As it is written, the vocabulary is found to be
wrong; but the same word follows in small letters, and the vocabulary is accepted. -/
theorem synonym_overwritten :
    let v : Vocabulary :=
      { builtIn with synonyms := .ofList [("Look", "destroy"), ("look", "status")] }
    v.validate = .error (.undeclaredIntent .synonyms "destroy") ∧
      ∃ n, v.checked = .ok n ∧ ("Look", "destroy") ∈ v.synonyms.entries ∧
        wordKey "destroy" ∉ n.intents ∧ n.synonym? (trimmed "Look") = some "status" ∧
        ¬ n.KeepsSynonym ("Look", "destroy") := by
  intro v
  have hchecked : v.checked = .ok v.normalized :=
    checked_eq_ok_iff.mpr ⟨rfl, by decide +kernel⟩
  have hundeclared : wordKey "destroy" ∉ v.normalized.intents := by decide +kernel
  exact ⟨by decide +kernel, v.normalized, hchecked, by decide +kernel, hundeclared,
    by decide +kernel, fun hkept => hundeclared hkept.declared⟩

/-! ## Vocabularies that are valid as they are written -/

/-- A reference that is found as it is written is found in the normal form, unless it is blank. -/
theorem mem_normalized_intents_iff {v : Vocabulary} {word : String} (h : v.isIntent word = true) :
    wordKey word ∈ v.normalized.intents ↔ isBlankText word = false := by
  have hentry : ∃ entry ∈ v.intents, wordKey entry = wordKey word :=
    ⟨lowercase word, isIntent_iff.mp h, wordKey_of_lowercase word⟩
  rw [normalized, mem_wordKeys, and_iff_left hentry, ne_eq, wordKey_eq_empty_iff,
    Bool.not_eq_true]

/-- A blank reference is found only among blank intents. -/
theorem not_isBlankText_of_isIntent {v : Vocabulary} {word : String} (h : v.isIntent word = true)
    (hintents : ∀ intent ∈ v.intents, isBlankText intent = false) : isBlankText word = false := by
  rw [← isBlankText_lowercase]
  exact hintents _ (isIntent_iff.mp h)

/-- In a valid vocabulary, a synonym in force means a declared intent. -/
theorem InForce.isIntent {v : Vocabulary} {e : String × String} (he : v.InForce e)
    (h : v.validate = .ok ()) : v.isIntent e.2 = true := by
  obtain ⟨-, -, -, hsynonyms⟩ := validate_eq_ok_iff.mp h
  exact hsynonyms e.2 (List.mem_map.mpr ⟨e, he.mem, rfl⟩)

/-- What can be wrong with a valid vocabulary: the intent that is assumed is blank, or one that a
synonym in force stands for.  A blank intent that needs a target is dropped in both places. -/
theorem accepted_iff_of_valid {v : Vocabulary} (h : v.validate = .ok ()) :
    (∃ n, v.checked = .ok n) ↔
      isBlankText v.defaultIntent = false ∧ ∀ e, v.InForce e → isBlankText e.2 = false := by
  obtain ⟨-, hdefault, hrequired, -⟩ := validate_eq_ok_iff.mp h
  rw [accepted_iff_closed]
  constructor
  · intro hclosed
    refine ⟨(mem_normalized_intents_iff hdefault).mp hclosed.default_declared, ?_⟩
    intro e he
    have hdeclared := (closed_normalized_iff.mp hclosed).2 e he
    exact (mem_normalized_intents_iff (he.isIntent h)).mp hdeclared
  · rintro ⟨hnotBlank, hvalues⟩
    have hdeclared := (mem_normalized_intents_iff hdefault).mpr hnotBlank
    refine closed_normalized_iff.mpr ⟨⟨List.ne_nil_of_mem hdeclared, hdeclared, ?_, ?_⟩, ?_⟩
    · -- What is still in the list is not blank, and leads where it did.
      intro word hword
      obtain ⟨hne, entry, hentry, rfl⟩ := mem_wordKeys.mp hword
      refine (mem_normalized_intents_iff (hrequired entry hentry)).mpr ?_
      rwa [ne_eq, wordKey_eq_empty_iff, Bool.not_eq_true] at hne
    · intro intent hintent
      cases hintent
    · intro e he
      exact (mem_normalized_intents_iff (he.isIntent h)).mpr (hvalues e he)

/-- **Normalizing keeps a vocabulary consistent.**  A vocabulary that is valid as it is written is
accepted if and only if neither the intent that is assumed nor one that a synonym in force stands
for is blank.  So it is in any case if no intent is blank: its normal form is valid as well, it is
what the vocabulary is loaded as, and every session goes on with it. -/
theorem valid_accepted {v : Vocabulary} (hvalid : v.validate = .ok ()) :
    ((∃ n, v.checked = .ok n) ↔
      isBlankText v.defaultIntent = false ∧ ∀ e, v.InForce e → isBlankText e.2 = false) ∧
    ((∀ intent ∈ v.intents, isBlankText intent = false) →
      v.checked = .ok v.normalized ∧ v.normalized.validate = .ok () ∧
        (VocabularySource.given v).loadChecked = .ok v.normalized ∧
        ∀ s : Session, s.step (.useVocabulary (.given v)) =
          .ok ({ s with vocabulary := v.normalized }, .vocabulary v.normalized)) := by
  refine ⟨accepted_iff_of_valid hvalid, ?_⟩
  intro hintents
  obtain ⟨-, hdefault, -, -⟩ := validate_eq_ok_iff.mp hvalid
  have haccepted : ∃ n, v.checked = .ok n := by
    rw [accepted_iff_of_valid hvalid]
    refine ⟨not_isBlankText_of_isIntent hdefault hintents, ?_⟩
    intro e he
    exact not_isBlankText_of_isIntent (he.isIntent hvalid) hintents
  obtain ⟨n, hn⟩ := haccepted
  obtain ⟨rfl, hnormal⟩ := checked_eq_ok_iff.mp hn
  have hloaded : (VocabularySource.given v).loadChecked = .ok v.normalized := by
    simp only [VocabularySource.loadChecked, VocabularySource.load, hn, Except.mapError]
  refine ⟨hn, hnormal, hloaded, ?_⟩
  intro s
  simp only [Session.step, hloaded]

/-- Blanks and capitals, a capital sigma that ends a word, and synonyms for different intents of
which one is left. -/
theorem valid_accepted_telos :
    let v : Vocabulary :=
      { programName := " ops ", intents := ["scan ", "τελος", "Unused"],
        targetRequired := ["SCAN "], defaultIntent := "ΤΕΛΟΣ", targets := ["", "Node"],
        synonyms := .ofList [("Look", "Scan "), ("look", "ΤΕΛΟΣ")] }
    let n : Vocabulary :=
      { programName := "ops", intents := ["scan", "τελος", "unused"], targetRequired := ["scan"],
        defaultIntent := "τελος", targets := ["node"], synonyms := .ofList [("look", "τελος")] }
    v.validate = .ok () ∧ (∀ intent ∈ v.intents, isBlankText intent = false) ∧
      v.checked = .ok n ∧ n.validate = .ok () ∧
      (VocabularySource.given v).loadChecked = .ok n ∧
      ∀ s : Session, s.step (.useVocabulary (.given v)) =
        .ok ({ s with vocabulary := n }, .vocabulary n) := by
  intro v n
  have hvalid : v.validate = .ok () := by decide +kernel
  have hintents : ∀ intent ∈ v.intents, isBlankText intent = false := by decide +kernel
  have hnormal : v.normalized = n := by decide +kernel
  have haccepted := (valid_accepted hvalid).2 hintents
  rw [hnormal] at haccepted
  exact ⟨hvalid, hintents, haccepted⟩

/-- A blank intent can be referred to, and then it is dropped. -/
example :
    let v : Vocabulary :=
      { programName := "ops", intents := ["scan", " "], targetRequired := [" "],
        defaultIntent := " ", targets := [], synonyms := ∅ }
    v.validate = .ok () ∧ v.checked = .error (.undeclaredIntent .defaultIntent "") := by
  decide +kernel

end Vocabulary

end Emend
