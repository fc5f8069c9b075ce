import Emend.Modifiers.NormalForm
import Emend.Proofs.Dict
import Emend.Proofs.Text.LowerCase
import Mathlib.Data.List.TakeWhile

/-!
# What normal forms are, and what is lost on the way

A key is normal if each of its characters is its own lower case and none is a dash or an underscore,
and a value is normal if it is not empty and not one of the two truth values in capitals.  This is
exactly what normalization leaves alone (`normalKey_eq_self_iff`, `normalValue_eq_self_iff`), and what
it leads to: lower-casing a character may make two of it, but never a dash or an underscore.  So
the modifiers are in their normal form after one round (`normalized_normalized`).

Keys that are spelled in different ways can have the same normal form.  Normalization keeps one
modifier for each normal key, with the value of the last of those that come to it (`get?_normalized`),
so all are kept if and only if the normal keys differ (`keepsAll_normalized_iff`).
-/

namespace Emend

/-- A character becomes a dash or an underscore only by being one. -/
theorem eq_of_mem_lowerChar {c d : Char} (hd : d = '-' ∨ d = '_') (h : d ∈ lowerChar c) : d = c := by
  by_cases hdot : c = 'İ'
  · subst hdot
    have hmem : d = 'i' ∨ d = '\u0307' := by simpa [lowerChar] using h
    rcases hd with rfl | rfl <;> exact absurd hmem (by decide)
  · rw [lowerChar_of_ne hdot, List.mem_singleton] at h
    rcases ofNat_lookup_lower c with hself | ⟨hcode, -⟩
    · rw [h, hself]
    · rcases lookup_lower_eq_or_lt c.toNat with hsame | hbeyond
      · rw [h, hsame, Char.ofNat_toNat]
      · rw [← hcode, ← h] at hbeyond
        rcases hd with rfl | rfl <;> exact absurd hbeyond (by decide)

namespace Modifiers

/-! ## Keys -/

/-- A key with nothing to normalize. -/
def IsNormalKey (key : String) : Prop := ∀ c ∈ key.toList, IsSettled c ∧ c ≠ '-' ∧ c ≠ '_'

/-- A normal form of a key is a normal key. -/
theorem isNormalKey_normalKey (key : String) : IsNormalKey (normalKey key) := by
  intro d hd
  rw [normalKey, String.toList_ofList, List.mem_flatMap] at hd
  obtain ⟨c, hc, hd⟩ := hd
  obtain ⟨hdash, hunderscore⟩ : c ≠ '-' ∧ c ≠ '_' := by simpa using (List.mem_filter.mp hc).2
  refine ⟨settled_of_mem_lowerChar hd, ?_, ?_⟩
  · intro heq
    exact hdash ((eq_of_mem_lowerChar (Or.inl heq) hd).symm.trans heq)
  · intro heq
    exact hunderscore ((eq_of_mem_lowerChar (Or.inr heq) hd).symm.trans heq)

/-- Nothing is dropped from a normal key, and nothing in it is lower-cased. -/
theorem IsNormalKey.normalKey_eq {key : String} (h : IsNormalKey key) : normalKey key = key := by
  have hstart : key.toList.dropWhile (· = '-') = key.toList := by
    rw [List.dropWhile_eq_self_iff]
    intro hpos
    simpa using (h _ (List.getElem_mem hpos)).2.1
  have hinner : (key.toList.filter fun c => c ≠ '-' ∧ c ≠ '_') = key.toList := by
    rw [List.filter_eq_self]
    intro c hc
    simpa using (h c hc).2
  have hlower : key.toList.flatMap lowerChar = key.toList := by
    calc key.toList.flatMap lowerChar
        = key.toList.flatMap fun c => [c] := List.flatMap_congr fun c hc => (h c hc).1
      _ = key.toList := List.flatMap_singleton' _
  rw [normalKey, hstart, hinner, hlower, String.ofList_toList]

/-- **Which keys are left alone.** -/
theorem normalKey_eq_self_iff {key : String} : normalKey key = key ↔ IsNormalKey key := by
  constructor
  · intro h
    rw [← h]
    exact isNormalKey_normalKey key
  · exact IsNormalKey.normalKey_eq

/-- Normalizing a key twice is normalizing it once. -/
theorem normalKey_normalKey (key : String) : normalKey (normalKey key) = normalKey key :=
  (isNormalKey_normalKey key).normalKey_eq

/-- A key of nothing but dashes and underscores. -/
def IsAllMarks (key : String) : Prop := ∀ c ∈ key.toList, c = '-' ∨ c = '_'

/-- **Which keys vanish**: those in which there is nothing to keep, since no character is nothing in
lower case. -/
theorem normalKey_eq_empty_iff {key : String} : normalKey key = "" ↔ IsAllMarks key := by
  have hkept : normalKey key = "" ↔
      ∀ c ∈ key.toList.dropWhile (· = '-'), c = '-' ∨ c = '_' := by
    rw [← String.toList_eq_nil_iff, normalKey, String.toList_ofList, List.flatMap_eq_nil_iff]
    simp [lowerChar_ne_nil, or_iff_not_imp_left]
  rw [hkept]
  constructor
  · intro h c hc
    rw [← List.takeWhile_append_dropWhile (p := (· = '-')) (l := key.toList)] at hc
    rcases List.mem_append.mp hc with hdash | hrest
    · exact Or.inl (by simpa using List.mem_takeWhile_imp hdash)
    · exact h c hrest
  · intro h c hc
    exact h c ((List.dropWhile_suffix _).subset hc)

/-! ## Values -/

/-- A value with nothing to normalize. -/
structure IsNormalValue (value : String) : Prop where
  ne_empty : value ≠ ""
  eq_true : sameButAsciiCase value flagTrue = true → value = flagTrue
  eq_false : sameButAsciiCase value flagFalse = true → value = flagFalse

theorem isNormalValue_flagTrue : IsNormalValue flagTrue :=
  ⟨by decide, fun _ => rfl, fun h => absurd h (by decide)⟩

theorem isNormalValue_flagFalse : IsNormalValue flagFalse :=
  ⟨by decide, fun h => absurd h (by decide), fun _ => rfl⟩

/-- A normal form of a value is a normal value. -/
theorem isNormalValue_normalValue (value : String) : IsNormalValue (normalValue value) := by
  unfold normalValue
  split
  · exact isNormalValue_flagTrue
  · next htrue =>
      obtain ⟨hne, htrue⟩ := not_or.mp htrue
      split
      · exact isNormalValue_flagFalse
      · next hfalse =>
          exact ⟨hne, fun h => absurd h htrue, fun h => absurd h hfalse⟩

/-- A normal value stays as it is. -/
theorem IsNormalValue.normalValue_eq {value : String} (h : IsNormalValue value) :
    normalValue value = value := by
  unfold normalValue
  split
  · next htrue => exact (h.eq_true (htrue.resolve_left h.ne_empty)).symm
  · split
    · next hfalse => exact (h.eq_false hfalse).symm
    · rfl

/-- **Which values are left alone.** -/
theorem normalValue_eq_self_iff {value : String} :
    normalValue value = value ↔ IsNormalValue value := by
  constructor
  · intro h
    rw [← h]
    exact isNormalValue_normalValue value
  · exact IsNormalValue.normalValue_eq

/-- Normalizing a value twice is normalizing it once. -/
theorem normalValue_normalValue (value : String) :
    normalValue (normalValue value) = normalValue value :=
  (isNormalValue_normalValue value).normalValue_eq

/-! ## All modifiers -/

/-- An entry stays as it is if its key and its value are normal. -/
theorem normalForm_eq_self_iff {e : String × String} :
    normalForm e = e ↔ IsNormalKey e.1 ∧ IsNormalValue e.2 := by
  rw [normalForm, Prod.ext_iff, normalKey_eq_self_iff, normalValue_eq_self_iff]

/-- There is something to normalize unless all keys and values are normal. -/
theorem irregular_eq_nil_iff {modifiers : Dict} :
    irregular modifiers = [] ↔ ∀ e ∈ modifiers.entries, IsNormalKey e.1 ∧ IsNormalValue e.2 := by
  rw [irregular, List.filter_eq_nil_iff]
  simp only [ne_eq, decide_not, Bool.not_eq_true', decide_eq_false_iff_not, not_not,
    normalForm_eq_self_iff]

/-- Whatever keys are merged, each entry that is left is the normal form of one that was there. -/
theorem exists_of_mem_normalized {modifiers : Dict} {e : String × String}
    (h : e ∈ (normalized modifiers).entries) :
    ∃ source ∈ modifiers.entries, normalForm source = e := by
  have hget : (normalized modifiers).get? e.1 = some e.2 := (Dict.get?_eq_some_iff _).mpr h
  exact List.mem_map.mp (Dict.mem_of_get?_ofList hget)

/-- Nothing is left to normalize afterwards. -/
theorem irregular_normalized (modifiers : Dict) : irregular (normalized modifiers) = [] := by
  rw [irregular_eq_nil_iff]
  intro e he
  obtain ⟨source, -, rfl⟩ := exists_of_mem_normalized he
  exact ⟨isNormalKey_normalKey source.1, isNormalValue_normalValue source.2⟩

/-- Modifiers with nothing to normalize are left alone as a whole. -/
theorem normalized_of_irregular_eq_nil {modifiers : Dict} (h : irregular modifiers = []) :
    normalized modifiers = modifiers := by
  have hmap : modifiers.entries.map normalForm = modifiers.entries := by
    rw [irregular_eq_nil_iff] at h
    exact (List.map_congr_left fun e he => normalForm_eq_self_iff.mpr (h e he)).trans
      (List.map_id _)
  rw [normalized, hmap, Dict.ofList_entries]

/-- **Normalizing is idempotent**, the merging of keys included. -/
theorem normalized_normalized (modifiers : Dict) :
    normalized (normalized modifiers) = normalized modifiers :=
  normalized_of_irregular_eq_nil (irregular_normalized modifiers)

/-! ## What is kept -/

section

variable (modifiers : Dict)

/-- The modifiers that come to a key. -/
def comingTo (key : String) : List (String × String) :=
  modifiers.entries.filter fun e => normalKey e.1 = key

/-- Of the modifiers that come to a key, the last one gives the value. -/
theorem get?_normalized (key : String) :
    (normalized modifiers).get? key =
      (comingTo modifiers key).getLast?.map fun e => normalValue e.2 :=
  Dict.get?_ofList_map normalKey normalValue modifiers.entries key

/-- The keys of the normal forms are the normal forms of the keys. -/
theorem keys_map_normalForm :
    (modifiers.entries.map normalForm).map Prod.fst = modifiers.keys.map normalKey := by
  rw [Dict.keys, List.map_map, List.map_map]
  rfl

/-- The keys afterwards are the normal forms of those before. -/
theorem keys_normalized {key : String} :
    key ∈ (normalized modifiers).keys ↔ ∃ source ∈ modifiers.keys, normalKey source = key := by
  rw [normalized, Dict.mem_keys_ofList, keys_map_normalForm, List.mem_map]

/-- There is one modifier for each normal key. -/
theorem length_normalized :
    (normalized modifiers).entries.length = (modifiers.keys.map normalKey).dedup.length := by
  rw [normalized, Dict.length_ofList, keys_map_normalForm]

/-- No modifier is lost if and only if no two keys have the same normal form. -/
theorem length_normalized_eq_iff :
    (normalized modifiers).entries.length = modifiers.entries.length ↔
      (modifiers.keys.map normalKey).Nodup := by
  rw [← keys_map_normalForm, ← Dict.length_ofList_eq_iff, List.length_map]
  exact Iff.rfl

/-- Each modifier keeps its value if and only if those that come to the same key agree in it. -/
theorem values_normalized_iff :
    (∀ e ∈ modifiers.entries,
        (normalized modifiers).get? (normalKey e.1) = some (normalValue e.2)) ↔
      ∀ e ∈ modifiers.entries, ∀ f ∈ modifiers.entries,
        normalKey e.1 = normalKey f.1 → normalValue e.2 = normalValue f.2 :=
  Dict.get?_ofList_map_iff normalKey normalValue modifiers.entries

/-- Some modifiers with every one of those they were made from, in its normal form. -/
structure KeepsAll (normal original : Dict) : Prop where
  values : ∀ e ∈ original.entries, normal.get? (normalKey e.1) = some (normalValue e.2)
  number : normal.entries.length = original.entries.length

/-- **Normalization keeps all modifiers if and only if no two keys have the same normal form.** -/
theorem keepsAll_normalized_iff :
    KeepsAll (normalized modifiers) modifiers ↔ (modifiers.keys.map normalKey).Nodup := by
  constructor
  · intro h
    exact (length_normalized_eq_iff modifiers).mp h.number
  · intro hnodup
    refine ⟨?_, (length_normalized_eq_iff modifiers).mpr hnodup⟩
    rw [Dict.keys, List.map_map] at hnodup
    rw [values_normalized_iff]
    intro e he f hf hkey
    rw [List.inj_on_of_nodup_map hnodup he hf hkey]

end

end Modifiers

end Emend
