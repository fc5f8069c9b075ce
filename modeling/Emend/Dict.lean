/-!
# Dictionaries of strings

A dictionary maps strings to strings: the modifiers of a command, the synonyms of a
vocabulary. It is kept as the list of its entries with strictly ascending keys, so equal
dictionaries are equal as data and there is one order in which everything that lists the
entries does so: by key, in the order of code points.

* `get?_insert` — an insertion changes the value of its key and of no other;
* `ext_get?` — dictionaries with the same look-ups are equal;
* `ofList_entries` — a dictionary is rebuilt from its entries.
-/

namespace Emend

/-- A finite map from strings to strings, listed by ascending key. -/
structure Dict where
  entries : List (String × String)
  sorted : entries.Pairwise (fun a b => a.1 < b.1)
deriving DecidableEq, Repr

namespace Dict

/-- The dictionary without entries. -/
def empty : Dict := ⟨[], .nil⟩

instance : EmptyCollection Dict := ⟨empty⟩

instance : Inhabited Dict := ⟨empty⟩

/-- Whether a dictionary has no entry. -/
def isEmpty (d : Dict) : Bool := d.entries.isEmpty

/-- The keys in ascending order. -/
def keys (d : Dict) : List String := d.entries.map Prod.fst

/-- The values in the order of their keys. -/
def values (d : Dict) : List String := d.entries.map Prod.snd

/-- The value of a key. -/
def get? (d : Dict) (key : String) : Option String := d.entries.lookup key

/-- Put an entry in its place among entries with ascending keys, over one with the same
key. -/
def insertEntry (key value : String) : List (String × String) → List (String × String)
  | [] => [(key, value)]
  | (k, v) :: rest =>
    if key < k then (key, value) :: (k, v) :: rest
    else if key = k then (key, value) :: rest
    else (k, v) :: insertEntry key value rest

/-- Nothing but the new entry comes in. -/
theorem eq_or_mem_of_mem_insertEntry {key value : String} {l : List (String × String)}
    {e : String × String} (h : e ∈ insertEntry key value l) : e = (key, value) ∨ e ∈ l := by
  fun_induction insertEntry key value l with
  | case1 => simpa using h
  | case2 k v rest hlt => simpa using h
  | case3 v rest hlt =>
    rcases List.mem_cons.1 h with h | h
    · exact .inl h
    · exact .inr (.tail _ h)
  | case4 k v rest hlt hne ih =>
    rcases List.mem_cons.1 h with h | h
    · exact .inr (h ▸ .head _)
    · exact (ih h).imp id (.tail _)

theorem lt_of_not_lt_of_ne {a b : String} (h : ¬ a < b) (hne : a ≠ b) : b < a := by
  apply Classical.byContradiction
  intro hba
  exact hne (String.le_antisymm (String.not_lt.1 hba) (String.not_lt.1 h))

/-- Putting an entry in its place keeps the keys ascending. -/
theorem sorted_insertEntry {key value : String} {l : List (String × String)}
    (h : l.Pairwise (fun a b => a.1 < b.1)) :
    (insertEntry key value l).Pairwise (fun a b => a.1 < b.1) := by
  fun_induction insertEntry key value l with
  | case1 => exact List.pairwise_singleton ..
  | case2 k v rest hlt =>
    refine List.pairwise_cons.2 ⟨fun e he => ?_, h⟩
    rcases List.mem_cons.1 he with rfl | he
    · exact hlt
    · exact String.lt_trans hlt ((List.pairwise_cons.1 h).1 e he)
  | case3 v rest hlt => exact List.pairwise_cons.2 (List.pairwise_cons.1 h)
  | case4 k v rest hlt hne ih =>
    have ⟨hk, hrest⟩ := List.pairwise_cons.1 h
    refine List.pairwise_cons.2 ⟨fun e he => ?_, ih hrest⟩
    rcases eq_or_mem_of_mem_insertEntry he with rfl | he
    · exact lt_of_not_lt_of_ne hlt hne
    · exact hk e he

/-- The dictionary in which a key has a value and every other key what it had. -/
def insert (d : Dict) (key value : String) : Dict :=
  ⟨insertEntry key value d.entries, sorted_insertEntry d.sorted⟩

/-- The dictionary of a list of entries, the last one counting where a key is repeated. -/
def ofList (entries : List (String × String)) : Dict :=
  entries.foldl (fun d e => d.insert e.1 e.2) empty

/-! ## Look-ups -/

/-- A look-up stops at the first entry with the key. -/
theorem lookup_cons_eq (k : String) (e : String × String) (l : List (String × String)) :
    (e :: l).lookup k = if k = e.1 then some e.2 else l.lookup k := by
  obtain ⟨k', v⟩ := e
  by_cases h : k = k'
  · simp [h]
  · have : (k == k') = false := by simpa using h
    simp [List.lookup_cons, h, this]

/-- A key that lies before all others is not found. -/
theorem lookup_eq_none_of_lt {key : String} {l : List (String × String)}
    (h : ∀ e ∈ l, key < e.1) : l.lookup key = none := by
  induction l with
  | nil => rfl
  | cons e rest ih =>
    have hne : key ≠ e.1 := fun heq => String.lt_irrefl _ (heq ▸ h e (.head _))
    rw [lookup_cons_eq, if_neg hne]
    exact ih fun e he => h e (.tail _ he)

/-- After an entry has been put in its place, its key has its value, and the other keys have theirs.
-/
theorem lookup_insertEntry (key value k : String) (l : List (String × String)) :
    (insertEntry key value l).lookup k = if k = key then some value else l.lookup k := by
  induction l with
  | nil => simp only [insertEntry, lookup_cons_eq]
  | cons e rest ih =>
    obtain ⟨k', v⟩ := e
    rw [insertEntry]
    split
    · simp only [lookup_cons_eq]
    · split
      · next heq => subst heq; simp only [lookup_cons_eq]; split <;> rfl
      · next hne =>
        simp only [lookup_cons_eq, ih]
        by_cases h : k = key
        · subst h; simp [hne]
        · simp [h]

@[simp] theorem get?_empty (k : String) : empty.get? k = none := rfl

/-- An insertion changes the value of its key and of no other. -/
theorem get?_insert (d : Dict) (key value k : String) :
    (d.insert key value).get? k = if k = key then some value else d.get? k :=
  lookup_insertEntry key value k d.entries

/-- Where the keys ascend, what is found for a key is its entry. -/
theorem lookup_eq_some_iff {l : List (String × String)} (h : l.Pairwise (fun a b => a.1 < b.1))
    {k v : String} : l.lookup k = some v ↔ (k, v) ∈ l := by
  induction l with
  | nil => simp
  | cons e rest ih =>
    have ⟨he, hrest⟩ := List.pairwise_cons.1 h
    rw [lookup_cons_eq]
    by_cases hk : k = e.1
    · subst hk
      have fresh : (e.1, v) ∉ rest := fun hm => String.lt_irrefl _ (he (e.1, v) hm)
      rw [if_pos rfl, List.mem_cons, or_iff_left fresh, Option.some.injEq]
      exact ⟨fun hv => hv ▸ rfl, fun hv => hv ▸ rfl⟩
    · have hne : (k, v) ≠ e := fun heq => hk (heq ▸ rfl)
      rw [if_neg hk, List.mem_cons, or_iff_right hne]
      exact ih hrest

/-- A key has a value if the two are an entry. -/
theorem get?_eq_some_iff (d : Dict) {k v : String} : d.get? k = some v ↔ (k, v) ∈ d.entries :=
  lookup_eq_some_iff d.sorted

/-- What is found after a list has been inserted comes from the list, or was there before. -/
theorem mem_or_get?_of_get?_foldl {l : List (String × String)} {d : Dict} {k v : String}
    (h : (l.foldl (fun d e => d.insert e.1 e.2) d).get? k = some v) :
    (k, v) ∈ l ∨ d.get? k = some v := by
  induction l generalizing d with
  | nil => exact .inr h
  | cons e l ih =>
    rcases ih h with hmem | hget
    · exact .inl (.tail _ hmem)
    · rw [get?_insert] at hget
      by_cases hk : k = e.1
      · rw [if_pos hk] at hget
        cases hget
        subst hk
        exact .inl (.head _)
      · rw [if_neg hk] at hget
        exact .inr hget

/-- Every entry of a dictionary that was built from a list is in the list. -/
theorem mem_of_get?_ofList {l : List (String × String)} {k v : String}
    (h : (ofList l).get? k = some v) : (k, v) ∈ l := by
  rcases mem_or_get?_of_get?_foldl h with hmem | hget
  · exact hmem
  · rw [get?_empty] at hget
    cases hget

/-! ## Extensionality -/

/-- Lists with ascending keys are equal if they have the same entries. -/
theorem eq_of_mem_iff {l m : List (String × String)} (hl : l.Pairwise (fun a b => a.1 < b.1))
    (hm : m.Pairwise (fun a b => a.1 < b.1)) (h : ∀ e, e ∈ l ↔ e ∈ m) : l = m := by
  induction l generalizing m with
  | nil =>
    cases m with
    | nil => rfl
    | cons e _ => exact absurd ((h e).2 (.head _)) (by simp)
  | cons a l ih =>
    cases m with
    | nil => exact absurd ((h a).1 (.head _)) (by simp)
    | cons b m =>
      have ⟨ha, hl⟩ := List.pairwise_cons.1 hl
      have ⟨hb, hm'⟩ := List.pairwise_cons.1 hm
      have hab : a = b := by
        rcases List.mem_cons.1 ((h a).1 (.head _)) with hab | ham
        · exact hab
        rcases List.mem_cons.1 ((h b).2 (.head _)) with hba | hbl
        · exact hba.symm
        · exact absurd (ha b hbl) (String.lt_asymm (hb a ham))
      subst hab
      refine congrArg (a :: ·) (ih hl hm' fun e => ⟨fun he => ?_, fun he => ?_⟩)
      · rcases List.mem_cons.1 ((h e).1 (.tail _ he)) with rfl | h'
        · exact absurd (ha _ he) (String.lt_irrefl _)
        · exact h'
      · rcases List.mem_cons.1 ((h e).2 (.tail _ he)) with rfl | h'
        · exact absurd (hb _ he) (String.lt_irrefl _)
        · exact h'

/-- **Extensionality**: dictionaries in which every key has the same value are equal. -/
theorem ext_get? {d e : Dict} (h : ∀ k, d.get? k = e.get? k) : d = e := by
  have hmem : ∀ p, p ∈ d.entries ↔ p ∈ e.entries := fun p => by
    rw [← d.get?_eq_some_iff, ← e.get?_eq_some_iff, h]
  have := eq_of_mem_iff d.sorted e.sorted hmem
  cases d; cases e; cases this; rfl

/-- Entries with ascending keys that are inserted in a row are found before those that were there.
-/
theorem get?_foldl_insert (l : List (String × String)) (d : Dict)
    (hl : l.Pairwise (fun a b => a.1 < b.1)) (k : String) :
    (l.foldl (fun d e => d.insert e.1 e.2) d).get? k = (l.lookup k).or (d.get? k) := by
  induction l generalizing d with
  | nil => rfl
  | cons e rest ih =>
    have ⟨he, hrest⟩ := List.pairwise_cons.1 hl
    rw [List.foldl_cons, ih _ hrest, get?_insert, lookup_cons_eq]
    by_cases hk : k = e.1
    · subst hk
      simp [lookup_eq_none_of_lt he]
    · simp [hk]

/-- A dictionary is made again from its entries. -/
theorem ofList_entries (d : Dict) : ofList d.entries = d :=
  ext_get? fun k => by
    rw [ofList, get?_foldl_insert _ _ d.sorted, get?_empty, Option.or_none, get?]

end Dict

end Emend
