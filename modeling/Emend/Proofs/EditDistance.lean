import Emend.EditDistance
import Emend.Proofs.Text.LowerCase

/-!
# The edit distance is a distance

The rows are computed from the front of the words, each cell from its three neighbours.  Three
descriptions of the same number meet here:

* `ofChars`, the last cell of the last row;
* `leastEdits`, the recursion on the first characters, of which the row of a prefix holds
  the values at the reversed prefixes (`row_eq`);
* the length of a shortest `Script`, a sequence of single edits.

`script_ofChars` and `ofChars_le_of_script` say that the first and the last agree.  Scripts can
be joined and run backwards, so the distance is symmetric and satisfies the triangle
inequality, which no argument about cells gives so easily.
-/

namespace Emend

namespace EditDistance

/-! ## Scripts -/

/-- One text is made from another by inserting, deleting or replacing a single character. -/
inductive Edit : List Char → List Char → Prop
  | insert (before after : List Char) (c : Char) : Edit (before ++ after) (before ++ c :: after)
  | delete (before after : List Char) (c : Char) : Edit (before ++ c :: after) (before ++ after)
  | replace (before after : List Char) (c d : Char) :
      Edit (before ++ c :: after) (before ++ d :: after)

/-- A sequence of single edits, by the number of its steps. -/
inductive Script : Nat → List Char → List Char → Prop
  | nil (a : List Char) : Script 0 a a
  | cons {n : Nat} {a b c : List Char} (first : Edit a b) (rest : Script n b c) :
      Script (n + 1) a c

/-- An edit can be undone. -/
theorem Edit.symm {a b : List Char} (h : Edit a b) : Edit b a := by
  cases h with
  | insert before after c => exact Edit.delete before after c
  | delete before after c => exact Edit.insert before after c
  | replace before after c d => exact Edit.replace before after d c

/-- An edit can be made behind a further character. -/
theorem Edit.behind {a b : List Char} (h : Edit a b) (x : Char) : Edit (x :: a) (x :: b) := by
  cases h with
  | insert before after c => exact Edit.insert (x :: before) after c
  | delete before after c => exact Edit.delete (x :: before) after c
  | replace before after c d => exact Edit.replace (x :: before) after c d

/-- An edit is one of the texts read backwards, too. -/
theorem Edit.reverse {a b : List Char} (h : Edit a b) : Edit a.reverse b.reverse := by
  cases h with
  | insert before after c =>
      simpa using Edit.insert after.reverse before.reverse c
  | delete before after c =>
      simpa using Edit.delete after.reverse before.reverse c
  | replace before after c d =>
      simpa using Edit.replace after.reverse before.reverse c d

/-- Two scripts in a row are a script, and their lengths add up. -/
theorem Script.append {m n : Nat} {a b c : List Char} (h : Script m a b) (h' : Script n b c) :
    Script (m + n) a c := by
  induction h with
  | nil a => simpa using h'
  | @cons k _ _ _ first _ ih =>
      have hsum : k + 1 + n = k + n + 1 := by omega
      rw [hsum]
      exact Script.cons first (ih h')

theorem Script.single {a b : List Char} (h : Edit a b) : Script 1 a b :=
  Script.cons h (Script.nil b)

/-- A script can be undone edit by edit, so it is one in the other direction. -/
theorem Script.symm {n : Nat} {a b : List Char} (h : Script n a b) : Script n b a := by
  induction h with
  | nil a => exact Script.nil a
  | cons first _ ih => exact ih.append (Script.single first.symm)

/-- A script can be carried out behind a further character. -/
theorem Script.behind {n : Nat} {a b : List Char} (h : Script n a b) (x : Char) :
    Script n (x :: a) (x :: b) := by
  induction h with
  | nil a => exact Script.nil _
  | cons first _ ih => exact Script.cons (first.behind x) ih

/-- A script is one of the texts read backwards, too. -/
theorem Script.reverse {n : Nat} {a b : List Char} (h : Script n a b) :
    Script n a.reverse b.reverse := by
  induction h with
  | nil a => exact Script.nil _
  | cons first _ ih => exact Script.cons first.reverse ih

/-- Every text can be typed character by character. -/
theorem Script.type (a : List Char) : Script a.length [] a := by
  induction a with
  | nil => exact Script.nil []
  | cons x a ih => exact ih.append (Script.single (Edit.insert [] a x))

/-! ## The recursion on the first characters -/

/-- The least number of edits by what becomes of the first characters. -/
def leastEdits : List Char → List Char → Nat
  | [], b => b.length
  | a, [] => a.length
  | x :: a, y :: b =>
    min (min (leastEdits (x :: a) b + 1) (leastEdits a (y :: b) + 1))
      (leastEdits a b + if x = y then 0 else 1)
termination_by a b => a.length + b.length

@[simp] theorem leastEdits_nil_left (b : List Char) : leastEdits [] b = b.length := by
  rw [leastEdits]

@[simp] theorem leastEdits_nil_right (a : List Char) : leastEdits a [] = a.length := by
  cases a <;> simp [leastEdits]

/-- The recursion: insert a character, delete one, or go on with both, for nothing where they are
the same. -/
theorem leastEdits_cons_cons (x y : Char) (a b : List Char) :
    leastEdits (x :: a) (y :: b) =
      min (min (leastEdits (x :: a) b + 1) (leastEdits a (y :: b) + 1))
        (leastEdits a b + if x = y then 0 else 1) := by
  rw [leastEdits]

/-- The recursion can be carried out: there is a script of that many edits. -/
theorem script_leastEdits (a b : List Char) : Script (leastEdits a b) a b := by
  induction a generalizing b with
  | nil => simpa using Script.type b
  | cons x a iha =>
      induction b with
      | nil => simpa using (Script.type (x :: a)).symm
      | cons y b ihb =>
          rw [leastEdits_cons_cons]
          have hinsert : Script (leastEdits (x :: a) b + 1) (x :: a) (y :: b) :=
            ihb.append (Script.single (Edit.insert [] b y))
          have hdelete : Script (leastEdits a (y :: b) + 1) (x :: a) (y :: b) :=
            Script.cons (Edit.delete [] a x) (iha (y :: b))
          have hkeep : Script (leastEdits a b + if x = y then 0 else 1) (x :: a) (y :: b) := by
            by_cases hxy : x = y
            · subst hxy
              simpa using (iha b).behind x
            · rw [if_neg hxy]
              exact ((iha b).behind x).append (Script.single (Edit.replace [] b x y))
          rcases Nat.le_total
            (min (leastEdits (x :: a) b + 1) (leastEdits a (y :: b) + 1))
            (leastEdits a b + if x = y then 0 else 1) with h | h
          · rw [Nat.min_eq_left h]
            rcases Nat.le_total (leastEdits (x :: a) b + 1) (leastEdits a (y :: b) + 1) with h' | h'
            · rwa [Nat.min_eq_left h']
            · rwa [Nat.min_eq_right h']
          · rwa [Nat.min_eq_right h]

/-! ## One edit changes the number by one at most -/

/-- One more character on the right costs one insertion at most. -/
theorem leastEdits_cons_right (a b : List Char) (y : Char) :
    leastEdits a (y :: b) ≤ leastEdits a b + 1 := by
  cases a with
  | nil => simp
  | cons x a =>
      rw [leastEdits_cons_cons]
      omega

/-- One more character on the left costs one deletion at most. -/
theorem leastEdits_cons_left (a b : List Char) (x : Char) :
    leastEdits (x :: a) b ≤ leastEdits a b + 1 := by
  cases b with
  | nil => simp
  | cons y b =>
      rw [leastEdits_cons_cons]
      omega

/-- One character less on the right costs one deletion at most. -/
theorem leastEdits_le_cons_right (a b : List Char) (y : Char) :
    leastEdits a b ≤ leastEdits a (y :: b) + 1 := by
  induction a with
  | nil =>
      simp only [leastEdits_nil_left, List.length_cons]
      omega
  | cons x a ih =>
      have hx := leastEdits_cons_left a b x
      rw [leastEdits_cons_cons]
      omega

/-- Another first character on the right costs one replacement at most. -/
theorem leastEdits_replace (a b : List Char) (y z : Char) :
    leastEdits a (z :: b) ≤ leastEdits a (y :: b) + 1 := by
  induction a with
  | nil => simp
  | cons x a ih =>
      rw [leastEdits_cons_cons, leastEdits_cons_cons]
      have hx : (if x = z then 0 else 1) ≤ 1 := by split <;> omega
      omega

/-- What holds at the place of an edit holds for the texts with everything before it. -/
theorem leastEdits_behind {s t : List Char}
    (h : ∀ a, leastEdits a t ≤ leastEdits a s + 1) (before a : List Char) :
    leastEdits a (before ++ t) ≤ leastEdits a (before ++ s) + 1 := by
  induction before generalizing a with
  | nil => exact h a
  | cons y before ihb =>
      induction a with
      | nil =>
          have hlength := h []
          simp only [leastEdits_nil_left, List.length_append, List.cons_append,
            List.length_cons] at *
          omega
      | cons x a iha =>
          have hdrop := ihb (x :: a)
          have hkeep := ihb a
          simp only [List.cons_append, leastEdits_cons_cons] at *
          omega

/-- A single edit of the second text changes the least number by one at most. -/
theorem leastEdits_le_of_edit {b c : List Char} (h : Edit b c) (a : List Char) :
    leastEdits a c ≤ leastEdits a b + 1 := by
  cases h with
  | insert before after x =>
      exact leastEdits_behind (fun a => leastEdits_cons_right a after x) before a
  | delete before after x =>
      exact leastEdits_behind (fun a => leastEdits_le_cons_right a after x) before a
  | replace before after x y =>
      exact leastEdits_behind (fun a => leastEdits_replace a after x y) before a

/-- A text needs no edits to become itself. -/
theorem leastEdits_self (a : List Char) : leastEdits a a = 0 := by
  induction a with
  | nil => simp
  | cons x a ih =>
      rw [leastEdits_cons_cons, ih, if_pos rfl]
      omega

/-- No script is shorter than the recursion says. -/
theorem leastEdits_le_of_script {n : Nat} {b c : List Char} (h : Script n b c) :
    ∀ a, leastEdits a c ≤ leastEdits a b + n := by
  induction h with
  | nil b => exact fun a => Nat.le_refl _
  | cons first _ ih =>
      intro a
      have hfirst := leastEdits_le_of_edit first a
      have hrest := ih a
      omega

/-! ## The rows -/

/-- The cells of the row of `x` that follow the one of `y`, both prefixes being written from
their last character to their first. -/
def cellsAfter (x : List Char) : List Char → List Char → List Nat
  | _, [] => []
  | y, d :: ds => leastEdits x (d :: y) :: cellsAfter x (d :: y) ds

/-- The loop over a row writes the cells that are due, if it starts from the right ones. -/
theorem cellsFrom_eq (c : Char) (x y ds : List Char) :
    cellsFrom c (leastEdits (c :: x) y) (leastEdits x y) ds (cellsAfter x y ds) =
      cellsAfter (c :: x) y ds := by
  induction ds generalizing y with
  | nil => rfl
  | cons d ds ih =>
      have hcell : min (min (leastEdits x (d :: y) + 1) (leastEdits (c :: x) y + 1))
          (leastEdits x y + if c = d then 0 else 1) = leastEdits (c :: x) (d :: y) := by
        rw [leastEdits_cons_cons]
        omega
      simp only [cellsAfter, cellsFrom, hcell, ih]

/-- The row of a prefix leads to that of the prefix with one more character. -/
theorem nextRow_eq (c : Char) (x word : List Char) :
    nextRow c word (leastEdits x [] :: cellsAfter x [] word) =
      leastEdits (c :: x) [] :: cellsAfter (c :: x) [] word := by
  have hfirst : leastEdits x [] + 1 = leastEdits (c :: x) [] := by simp
  rw [nextRow, hfirst, cellsFrom_eq]

/-- In the first row, the cell of a prefix is its length. -/
theorem cellsAfter_nil (y word : List Char) :
    cellsAfter [] y word = List.range' (y.length + 1) word.length := by
  induction word generalizing y with
  | nil => rfl
  | cons d ds ih => simp [cellsAfter, ih, List.range'_succ]

/-- **What a row holds**: the least numbers of edits between its prefix and all prefixes of
the other word. -/
theorem row_eq (start word : List Char) :
    row start word = leastEdits start.reverse [] :: cellsAfter start.reverse [] word := by
  have step : ∀ (start x : List Char),
      start.foldl (fun above c => nextRow c word above) (leastEdits x [] :: cellsAfter x [] word) =
        leastEdits (start.reverse ++ x) [] :: cellsAfter (start.reverse ++ x) [] word := by
    intro start
    induction start with
    | nil => exact fun x => rfl
    | cons c start ih =>
        intro x
        rw [List.foldl_cons, nextRow_eq, ih]
        simp
  have hfirst : List.range (word.length + 1) = leastEdits [] [] :: cellsAfter [] [] word := by
    rw [cellsAfter_nil, List.range_eq_range', List.range'_succ]
    simp
  rw [row, hfirst, step]
  simp

/-- The last cell of a row is that of the whole word. -/
theorem getLastD_cellsAfter (x y word : List Char) (d : Nat) :
    (leastEdits x y :: cellsAfter x y word).getLastD d = leastEdits x (word.reverse ++ y) := by
  induction word generalizing y with
  | nil => rfl
  | cons c word ih =>
      have hlast := ih (c :: y)
      simpa [cellsAfter] using hlast

/-- What is computed is the least number of edits, for the texts read backwards. -/
theorem ofChars_eq (a b : List Char) : ofChars a b = leastEdits a.reverse b.reverse := by
  rw [ofChars, row_eq, getLastD_cellsAfter, List.append_nil]

/-! ## The distance -/

/-- **A shortest script exists**: the distance is the length of one. -/
theorem script_ofChars (a b : List Char) : Script (ofChars a b) a b := by
  have h := (script_leastEdits a.reverse b.reverse).reverse
  rwa [List.reverse_reverse, List.reverse_reverse, ← ofChars_eq] at h

/-- **No script is shorter** than the distance. -/
theorem ofChars_le_of_script {n : Nat} {a b : List Char} (h : Script n a b) :
    ofChars a b ≤ n := by
  have hle := leastEdits_le_of_script h.reverse a.reverse
  rwa [leastEdits_self, Nat.zero_add, ← ofChars_eq] at hle

theorem ofChars_symm (a b : List Char) : ofChars a b = ofChars b a :=
  Nat.le_antisymm (ofChars_le_of_script (script_ofChars b a).symm)
    (ofChars_le_of_script (script_ofChars a b).symm)

/-- A way through a third text is no shortcut. -/
theorem ofChars_triangle (a b c : List Char) : ofChars a c ≤ ofChars a b + ofChars b c :=
  ofChars_le_of_script ((script_ofChars a b).append (script_ofChars b c))

/-- Only equal texts have the distance zero. -/
theorem ofChars_eq_zero_iff {a b : List Char} : ofChars a b = 0 ↔ a = b := by
  constructor
  · intro h
    have hscript := script_ofChars a b
    rw [h] at hscript
    cases hscript
    rfl
  · intro h
    subst h
    exact Nat.le_zero.mp (ofChars_le_of_script (Script.nil a))

end EditDistance

/-! ## Words -/

/-- The distance of two words does not depend on their order. -/
theorem editDistance_symm (a b : String) : editDistance a b = editDistance b a :=
  EditDistance.ofChars_symm _ _

/-- The triangle inequality, for words whose case does not matter. -/
theorem editDistance_triangle (a b c : String) :
    editDistance a c ≤ editDistance a b + editDistance b c :=
  EditDistance.ofChars_triangle _ _ _

/-- Words are at distance zero if they differ in nothing but case. -/
theorem editDistance_eq_zero_iff {a b : String} :
    editDistance a b = 0 ↔ lowercase a = lowercase b := by
  rw [editDistance, EditDistance.ofChars_eq_zero_iff, ← toList_lowercase, ← toList_lowercase,
    String.toList_inj]

theorem editDistance_self (word : String) : editDistance word word = 0 :=
  editDistance_eq_zero_iff.mpr rfl

/-- Lower-casing a word first makes no difference to its distances. -/
@[simp] theorem editDistance_lowercase_left (a b : String) :
    editDistance (lowercase a) b = editDistance a b := by
  simp [editDistance, lower_lower]

/-- Words that differ in case only have the same distance from every other. -/
theorem editDistance_congr_left {a b : String} (h : lowercase a = lowercase b) :
    editDistance a = editDistance b := by
  funext word
  rw [← editDistance_lowercase_left a, h, editDistance_lowercase_left]

end Emend
