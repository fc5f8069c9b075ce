import Emend.Dict
import Mathlib.Data.List.Dedup
import Mathlib.Data.List.Induction

/-!
# Dictionaries that are built from lists

A list may name a key several times, and a dictionary cannot.  Built from the list, it has each key
that is named once (`length_ofList`), and the value of a key is that of the last entry that names
it (`get?_ofList`).  So entries are lost if and only if the list repeats a key.

Where the list has the entries of a dictionary with their keys changed, the last one is the one whose
key was the greatest (`getLast?_filter_eq_some_iff`), and a value is lost if and only if entries
that come to the same key differ in it (`get?_ofList_map_iff`).
-/

namespace Emend

namespace Dict

/-- The last entry that names a key gives its value. -/
theorem get?_ofList (l : List (String × String)) (key : String) :
    (ofList l).get? key = (l.filter fun e => e.1 = key).getLast?.map Prod.snd := by
  induction l using List.reverseRecOn with
  | nil => rfl
  | append_singleton l e ih =>
      have hlast : (ofList (l ++ [e])).get? key =
          if key = e.1 then some e.2 else (ofList l).get? key := by
        rw [ofList, List.foldl_append]
        exact get?_insert (ofList l) e.1 e.2 key
      rw [hlast, List.filter_append]
      by_cases hkey : key = e.1
      · simp [hkey]
      · have hother : ¬ e.1 = key := fun heq => hkey heq.symm
        simp [hkey, hother, ih]

/-- What is named later counts. -/
theorem get?_ofList_append (l m : List (String × String)) (key : String) :
    (ofList (l ++ m)).get? key = ((ofList m).get? key).or ((ofList l).get? key) := by
  simp only [get?_ofList, List.filter_append, List.getLast?_append, Option.map_or]

/-- If some entry meets a condition, there is a last one that does. -/
theorem exists_getLast?_filter {l : List (String × String)} {p : String × String → Prop}
    [DecidablePred p] {e : String × String} (hmem : e ∈ l) (hp : p e) :
    ∃ last, (l.filter (fun f => p f)).getLast? = some last := by
  have hne : l.filter (fun f => p f) ≠ [] :=
    List.ne_nil_of_mem (List.mem_filter.mpr ⟨hmem, by simpa using hp⟩)
  exact Option.isSome_iff_exists.mp (List.getLast?_isSome.mpr hne)

/-! ## Entries under other keys -/

section

variable (rekey recode : String → String) (l : List (String × String))

/-- Of the entries that come to a key, the last one gives its value. -/
theorem get?_ofList_map (key : String) :
    (ofList (l.map fun e => (rekey e.1, recode e.2))).get? key =
      (l.filter fun e => rekey e.1 = key).getLast?.map fun e => recode e.2 := by
  have hfilter : (l.map fun e => (rekey e.1, recode e.2)).filter (fun e => e.1 = key) =
      (l.filter fun e => rekey e.1 = key).map fun e => (rekey e.1, recode e.2) :=
    List.filter_map
  rw [get?_ofList, hfilter, List.getLast?_map, Option.map_map]
  rfl

/-- Each entry keeps its value if and only if those that come to the same key agree in it. -/
theorem get?_ofList_map_iff :
    (∀ e ∈ l, (ofList (l.map fun e => (rekey e.1, recode e.2))).get? (rekey e.1) =
        some (recode e.2)) ↔
      ∀ e ∈ l, ∀ f ∈ l, rekey e.1 = rekey f.1 → recode e.2 = recode f.2 := by
  constructor
  · intro hkept e he f hf hkey
    have hvalue := hkept f hf
    rw [← hkey, hkept e he] at hvalue
    exact Option.some.inj hvalue
  · intro hagree e he
    obtain ⟨last, hlast⟩ := exists_getLast?_filter (p := fun f => rekey f.1 = rekey e.1) he rfl
    obtain ⟨hentry, hkey⟩ := List.mem_filter.mp (List.mem_of_getLast? hlast)
    rw [get?_ofList_map, hlast, Option.map_some, hagree last hentry e he (by simpa using hkey)]

end

/-! ## The keys of a dictionary -/

/-- A key is named once among ascending keys. -/
theorem nodup_keys (d : Dict) : d.keys.Nodup := by
  have hascending : d.keys.Pairwise (· < ·) := List.pairwise_map.mpr d.sorted
  refine hascending.imp ?_
  intro a b hlt heq
  exact String.lt_irrefl b (heq ▸ hlt)

/-- The keys are the words that have a value. -/
theorem mem_keys_iff {d : Dict} {key : String} : key ∈ d.keys ↔ (d.get? key).isSome = true := by
  rw [keys, List.mem_map, Option.isSome_iff_exists]
  constructor
  · intro h
    obtain ⟨e, he, rfl⟩ := h
    exact ⟨e.2, (get?_eq_some_iff d).mpr he⟩
  · intro h
    obtain ⟨value, hget⟩ := h
    exact ⟨(key, value), (get?_eq_some_iff d).mp hget, rfl⟩

/-- The keys of the dictionary are those of the list, whichever of their values is kept. -/
theorem mem_keys_ofList {l : List (String × String)} {key : String} :
    key ∈ (ofList l).keys ↔ key ∈ l.map Prod.fst := by
  rw [mem_keys_iff, get?_ofList, Option.isSome_map, List.getLast?_isSome, ne_eq,
    List.filter_eq_nil_iff, List.mem_map]
  simp

/-- There are as many entries as keys that are named. -/
theorem length_ofList (l : List (String × String)) :
    (ofList l).entries.length = (l.map Prod.fst).dedup.length := by
  have hperm : (ofList l).keys.Perm (l.map Prod.fst).dedup := by
    refine (List.perm_ext_iff_of_nodup (nodup_keys _) (List.nodup_dedup _)).mpr ?_
    intro key
    rw [mem_keys_ofList, List.mem_dedup]
  have hlength := hperm.length_eq
  rwa [keys, List.length_map] at hlength

/-- No entry is lost if and only if no key is repeated. -/
theorem length_ofList_eq_iff {l : List (String × String)} :
    (ofList l).entries.length = l.length ↔ (l.map Prod.fst).Nodup := by
  have hkeys : l.length = (l.map Prod.fst).length := by rw [List.length_map]
  rw [length_ofList, hkeys, ← List.dedup_eq_self]
  constructor
  · intro hlength
    exact (List.dedup_sublist _).eq_of_length hlength
  · intro heq
    rw [heq]

/-! ## The last of some entries -/

section

variable {d : Dict} {p : String × String → Prop} [DecidablePred p] {e : String × String}

/-- Among the entries that pass a test, the last one has the greatest key. -/
theorem le_of_getLast?_filter (h : (d.entries.filter (fun f => p f)).getLast? = some e)
    {f : String × String} (hf : f ∈ d.entries) (hp : p f) : f.1 ≤ e.1 := by
  obtain ⟨front, hfront⟩ := List.getLast?_eq_some_iff.mp h
  have hsorted : (front ++ [e]).Pairwise (fun a b => a.1 < b.1) :=
    hfront ▸ d.sorted.sublist List.filter_sublist
  have hmem : f ∈ front ++ [e] := hfront ▸ List.mem_filter.mpr ⟨hf, by simpa using hp⟩
  rcases List.mem_append.mp hmem with hbefore | hlast
  · have hlt : f.1 < e.1 := (List.pairwise_append.mp hsorted).2.2 f hbefore e (by simp)
    exact String.not_lt.mp (String.lt_asymm hlt)
  · obtain rfl := List.mem_singleton.mp hlast
    exact String.le_refl _

/-- Of the entries of a dictionary that meet a condition, the last one is that with the greatest
key. -/
theorem getLast?_filter_eq_some_iff :
    (d.entries.filter (fun f => p f)).getLast? = some e ↔
      (e ∈ d.entries ∧ p e) ∧ ∀ f ∈ d.entries, p f → f.1 ≤ e.1 := by
  constructor
  · intro h
    have hmem : e ∈ d.entries.filter (fun f => p f) := List.mem_of_getLast? h
    exact ⟨by simpa using hmem, fun f => le_of_getLast?_filter h⟩
  · intro h
    obtain ⟨⟨hmem, hp⟩, hgreatest⟩ := h
    obtain ⟨last, hlast⟩ := exists_getLast?_filter hmem hp
    obtain ⟨hlastMem, hlastMeets⟩ := List.mem_filter.mp (List.mem_of_getLast? hlast)
    have hkey : last.1 = e.1 :=
      String.le_antisymm (hgreatest last hlastMem (by simpa using hlastMeets))
        (le_of_getLast?_filter hlast hmem hp)
    rw [hlast, List.inj_on_of_nodup_map (nodup_keys d) hlastMem hmem hkey]

end

end Dict

end Emend
