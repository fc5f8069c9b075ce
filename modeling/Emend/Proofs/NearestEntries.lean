import Emend.Proofs.EditDistance

/-!
# The closest entries of a dictionary

`nearestEntries` first keeps what lies within the limit, then takes the least distance among
that, then keeps what attains it.  `nearestEntries_eq` says in one condition on the single entry
which ones are left: they are those entries, in the order of the dictionary and as often as
they stand in it, that differ from the word by an admissible number of edits and than which no
entry that differs is closer.

The limit has little to do with it.  An entry that is closest within some limit is closest among
all, so a wider limit only adds a tier where there was none (`nearestEntries_of_le`).
`nearestEntries_isClosestTier` collects what is to be said of the tier.
-/

namespace Emend

/-- An entry that differs from a word by at most `limit` edits, and no entry that differs
from the word is closer. -/
def IsNearest (token : String) (dictionary : List String) (limit : Nat) (entry : String) : Prop :=
  0 < editDistance token entry ∧ editDistance token entry ≤ limit ∧
    ∀ other ∈ dictionary, 0 < editDistance token other →
      editDistance token entry ≤ editDistance token other

instance (token : String) (dictionary : List String) (limit : Nat) (entry : String) :
    Decidable (IsNearest token dictionary limit entry) := by
  unfold IsNearest
  infer_instance

/-- An entry with its distance from a word. -/
def measured (token entry : String) : NearEntry := ⟨entry, editDistance token entry⟩

/-- The entries of a dictionary within the limit, the word itself left out. -/
def inReach (token : String) (dictionary : List String) (limit : Nat) : List String :=
  dictionary.filter fun e => 0 < editDistance token e ∧ editDistance token e ≤ limit

/-- An entry is in reach if it is within the limit and is not the word itself. -/
theorem mem_inReach {token : String} {dictionary : List String} {limit : Nat} {e : String} :
    e ∈ inReach token dictionary limit ↔
      e ∈ dictionary ∧ 0 < editDistance token e ∧ editDistance token e ≤ limit := by
  simp [inReach]

/-- The scan keeps the entries in reach, each with its distance. -/
theorem entriesWithin_eq (token : String) (dictionary : List String) (limit : Nat) :
    entriesWithin token dictionary limit =
      (inReach token dictionary limit).map (measured token) := by
  rw [entriesWithin, List.filter_map]
  rfl

/-- Being closest means to attain the least distance within the limit. -/
theorem isNearest_iff_of_min {token : String} {dictionary : List String} {limit least : Nat}
    (hmin : ((inReach token dictionary limit).map (editDistance token)).min? = some least)
    {e : String} (he : e ∈ dictionary) :
    IsNearest token dictionary limit e ↔
      editDistance token e = least ∧ 0 < editDistance token e ∧ editDistance token e ≤ limit := by
  obtain ⟨hmem, hle⟩ := List.min?_eq_some_iff.mp hmin
  obtain ⟨e₀, he₀, hleast⟩ := List.mem_map.mp hmem
  obtain ⟨hdict₀, hpos₀, hlimit₀⟩ := mem_inReach.mp he₀
  have hbound : ∀ other ∈ dictionary, 0 < editDistance token other →
      editDistance token other ≤ limit → least ≤ editDistance token other :=
    fun other hother hpos hlimit =>
      hle _ (List.mem_map_of_mem (mem_inReach.mpr ⟨hother, hpos, hlimit⟩))
  constructor
  · intro hnear
    have hle₀ := hnear.2.2 e₀ hdict₀ hpos₀
    have hge := hbound e he hnear.1 hnear.2.1
    exact ⟨by omega, hnear.1, hnear.2.1⟩
  · intro hattained
    refine ⟨hattained.2.1, hattained.2.2, ?_⟩
    intro other hother hpos
    by_cases hlimit : editDistance token other ≤ limit
    · have hge := hbound other hother hpos hlimit
      omega
    · omega

@[simp] theorem nearestEntries_empty (dictionary : List String) (limit : Nat) :
    nearestEntries "" dictionary limit = [] := if_pos rfl

/-- What is closest to a word does not depend on the case of its letters. -/
theorem nearestEntries_congr {a b : String} (h : lowercase a = lowercase b)
    (dictionary : List String) (limit : Nat) :
    nearestEntries a dictionary limit = nearestEntries b dictionary limit := by
  unfold nearestEntries entriesWithin
  simp only [eq_empty_congr h, editDistance_congr_left h]

/-- **The closest tier**, as a part of the dictionary. -/
theorem nearestEntries_eq {token : String} (h : token ≠ "") (dictionary : List String)
    (limit : Nat) :
    nearestEntries token dictionary limit =
      (dictionary.filter (IsNearest token dictionary limit)).map (measured token) := by
  have hdist : ((inReach token dictionary limit).map (measured token)).map (·.distance) =
      (inReach token dictionary limit).map (editDistance token) := List.map_map
  rw [nearestEntries, if_neg h, entriesWithin_eq]
  simp only [hdist]
  cases hmin : ((inReach token dictionary limit).map (editDistance token)).min? with
  | none =>
      have hreach : inReach token dictionary limit = [] := by simpa using hmin
      have hnone : dictionary.filter (IsNearest token dictionary limit) = [] := by
        rw [List.filter_eq_nil_iff]
        intro e he hnear
        have hnear := of_decide_eq_true hnear
        have hmem := mem_inReach.mpr ⟨he, hnear.1, hnear.2.1⟩
        rw [hreach] at hmem
        cases hmem
      rw [hnone, List.map_nil]
  | some least =>
      simp only [List.filter_map]
      congr 1
      rw [inReach, List.filter_filter]
      apply List.filter_congr
      intro e he
      have hiff := isNearest_iff_of_min hmin he
      rw [Bool.eq_iff_iff]
      simp only [Function.comp_apply, Bool.and_eq_true, decide_eq_true_eq]
      exact hiff.symm

/-- What is found are the entries that nothing in reach is closer than. -/
theorem mem_nearestEntries {token : String} {dictionary : List String} {limit : Nat}
    {m : NearEntry} :
    m ∈ nearestEntries token dictionary limit ↔
      token ≠ "" ∧ m.entry ∈ dictionary ∧ IsNearest token dictionary limit m.entry ∧
        m = measured token m.entry := by
  by_cases ht : token = ""
  · subst ht
    simp
  · rw [nearestEntries_eq ht, List.mem_map]
    constructor
    · intro h
      obtain ⟨e, he, rfl⟩ := h
      obtain ⟨hdict, hnear⟩ := List.mem_filter.mp he
      exact ⟨ht, hdict, of_decide_eq_true hnear, rfl⟩
    · intro h
      obtain ⟨-, hdict, hnear, heq⟩ := h
      exact ⟨m.entry, List.mem_filter.mpr ⟨hdict, decide_eq_true hnear⟩, heq.symm⟩

/-- There is a closest tier as soon as some entry lies within the limit. -/
theorem nearestEntries_ne_nil_iff {token : String} (h : token ≠ "") {dictionary : List String}
    {limit : Nat} :
    nearestEntries token dictionary limit ≠ [] ↔
      ∃ e ∈ dictionary, 0 < editDistance token e ∧ editDistance token e ≤ limit := by
  rw [nearestEntries_eq h, ne_eq, List.map_eq_nil_iff, List.filter_eq_nil_iff]
  constructor
  · intro hne
    by_contra hnone
    apply hne
    intro e he hnear
    have hnear := of_decide_eq_true hnear
    exact hnone ⟨e, he, hnear.1, hnear.2.1⟩
  · intro hsome hnone
    -- The least of the distances that occur is attained by an entry of the tier.
    obtain ⟨e, he, hpos, hlimit⟩ := hsome
    induction hn : editDistance token e using Nat.strongRecOn generalizing e with
    | ind n ih =>
        subst hn
        have hnot : ¬ IsNearest token dictionary limit e := by simpa using hnone e he
        apply hnot
        refine ⟨hpos, hlimit, ?_⟩
        intro other hother hpos'
        by_contra hcloser
        exact ih _ (by omega) other hother hpos' (by omega) rfl

/-! ## The tier and its limit -/

/-- Entries beyond the limit take no part: an entry within it is closer than those in any case. -/
theorem isNearest_iff_within {token : String} {dictionary : List String} {limit : Nat}
    {e : String} :
    IsNearest token dictionary limit e ↔
      0 < editDistance token e ∧ editDistance token e ≤ limit ∧
        ∀ other ∈ dictionary, 0 < editDistance token other → editDistance token other ≤ limit →
          editDistance token e ≤ editDistance token other := by
  constructor
  · intro hnear
    exact ⟨hnear.1, hnear.2.1, fun other hother hpos _ => hnear.2.2 other hother hpos⟩
  · intro hwithin
    obtain ⟨hpos, hlimit, hleast⟩ := hwithin
    refine ⟨hpos, hlimit, ?_⟩
    intro other hother hpos'
    by_cases hlimit' : editDistance token other ≤ limit
    · exact hleast other hother hpos' hlimit'
    · omega

/-- A wider limit does not change a tier that there is. -/
theorem nearestEntries_of_le {token : String} {dictionary : List String} {limit larger : Nat}
    (hne : nearestEntries token dictionary limit ≠ []) (hle : limit ≤ larger) :
    nearestEntries token dictionary larger = nearestEntries token dictionary limit := by
  obtain ⟨m, hm⟩ := List.exists_mem_of_ne_nil _ hne
  obtain ⟨htoken, hdict, hnear, -⟩ := mem_nearestEntries.mp hm
  rw [nearestEntries_eq htoken, nearestEntries_eq htoken]
  congr 1
  apply List.filter_congr
  intro e _
  rw [decide_eq_decide]
  constructor
  · intro hwide
    -- What is closest within the wider limit is as close as the entry within the narrower one.
    have hclose := hwide.2.2 m.entry hdict hnear.1
    exact ⟨hwide.1, Nat.le_trans hclose hnear.2.1, hwide.2.2⟩
  · intro hnarrow
    exact ⟨hnarrow.1, Nat.le_trans hnarrow.2.1 hle, hnarrow.2.2⟩

/-- What is to be said of the entries found for a word: they are the closest tier, as a part of the
dictionary and with their distances, but for the empty word, which nothing resembles; there is none
only if nothing lies within the limit; and if there is one, the limit could be any wider. -/
structure IsClosestTier (token : String) (dictionary : List String) (limit : Nat)
    (found : List NearEntry) : Prop where
  entries : found = if token = "" then [] else
    (dictionary.filter fun e => 0 < editDistance token e ∧ editDistance token e ≤ limit ∧
      ∀ other ∈ dictionary, 0 < editDistance token other → editDistance token other ≤ limit →
        editDistance token e ≤ editDistance token other).map fun e => ⟨e, editDistance token e⟩
  nil_iff : found = [] ↔
    token = "" ∨ ∀ e ∈ dictionary, ¬ (1 ≤ editDistance token e ∧ editDistance token e ≤ limit)
  stable : found ≠ [] →
    ∀ larger, limit ≤ larger → nearestEntries token dictionary larger = found

/-- **The entries found are the closest tier**, whatever the word, the dictionary and the limit. -/
theorem nearestEntries_isClosestTier (token : String) (dictionary : List String) (limit : Nat) :
    IsClosestTier token dictionary limit (nearestEntries token dictionary limit) where
  entries := by
    by_cases htoken : token = ""
    · rw [if_pos htoken, htoken, nearestEntries_empty]
    · rw [if_neg htoken, nearestEntries_eq htoken]
      simp only [isNearest_iff_within]
      rfl
  nil_iff := by
    by_cases htoken : token = ""
    · simp [htoken]
    · rw [← not_iff_not, ← ne_eq, nearestEntries_ne_nil_iff htoken]
      simp only [htoken, false_or, not_forall, not_not, exists_prop]
      exact Iff.rfl
  stable := fun hne _ hle => nearestEntries_of_le hne hle

end Emend
