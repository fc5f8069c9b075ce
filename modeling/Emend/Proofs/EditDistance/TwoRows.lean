import Emend.Proofs.EditDistance
import Mathlib.Order.Bounds.Defs

/-!
# Two rows are enough

Of the rows of an edit distance only the last is of use, and each is made from the one before.  So
two of them are kept (`Rows`): one to read, one to write over from left to right, and after every
character of the first word they change places.  The row that is written over holds what was there
two characters ago, and no cell of it is read before it is written; `IsRow` says up to which prefix
of the other word a row is that of the present characters, and nothing about the cells beyond.

`byTwoRows_eq` says that this comes to the edit distance, and `isLeast_editDistance` what that is: the
least number of edits that turn one word into the other.
-/

namespace Emend

namespace EditDistance

/-- Two rows of cells, one for every prefix of a word: the one above, and one to be written over. -/
structure Rows (word : List Char) where
  above : Vector Nat (word.length + 1)
  current : Vector Nat (word.length + 1)

namespace Rows

variable {word : List Char}

/-- At first the row above is that of the empty word, and nothing is known of the other. -/
def start (word : List Char) : Rows word where
  above := Vector.ofFn fun j => j.val
  current := Vector.replicate (word.length + 1) 0

/-- Write the first cell. -/
def writeFirst (r : Rows word) (cell : Nat) : Rows word :=
  { r with current := r.current.set 0 cell }

/-- Write the cell behind a character of the word, from the cells above, before and diagonally
above it. -/
def writeCell (c : Char) (r : Rows word) (j : Nat) (hj : j < word.length) : Rows word :=
  { r with
    current := r.current.set (j + 1)
      (min (min (r.above[j + 1] + 1) (r.current[j] + 1))
        (r.above[j] + if c = word[j] then 0 else 1)) }

/-- Write the cells behind the first characters of the word, from left to right. -/
def writeCells (c : Char) (r : Rows word) : (count : Nat) → count ≤ word.length → Rows word
  | 0, _ => r
  | j + 1, hj => (r.writeCells c j (Nat.le_of_lt hj)).writeCell c j hj

/-- Exchange the rows. -/
def swap (r : Rows word) : Rows word := ⟨r.current, r.above⟩

/-- Go on to the row of a prefix with one more character, which has the given place. -/
def next (r : Rows word) (c : Char) (i : Nat) : Rows word :=
  ((r.writeFirst (i + 1)).writeCells c word.length (Nat.le_refl _)).swap

/-- The rows after all characters of a word. -/
def after (chars word : List Char) : Rows word :=
  chars.zipIdx.foldl (fun r (c, i) => r.next c i) (start word)

/-! ## What the rows hold -/

/-- Up to a prefix of the word, a row holds the least numbers of edits between `x` and the prefixes,
all of them written from their last character to their first. -/
def IsRow (row : Vector Nat (word.length + 1)) (x : List Char) (count : Nat) : Prop :=
  ∀ j (hj : j < word.length + 1), j ≤ count → row[j] = leastEdits x (word.take j).reverse

/-- The row to begin with is that of the empty prefix. -/
theorem isRow_start (word : List Char) : IsRow (start word).above [] word.length := by
  intro j hj hle
  simp [start, hle]

/-- The first cell of a row is the length of its prefix, whatever else is left in the row. -/
theorem isRow_writeFirst (r : Rows word) (x : List Char) :
    IsRow (r.writeFirst x.length).current x 0 := by
  intro j hj hle
  obtain rfl := Nat.le_zero.mp hle
  simp [writeFirst]

@[simp] theorem above_writeCells (c : Char) (r : Rows word) (count : Nat)
    (hcount : count ≤ word.length) : (r.writeCells c count hcount).above = r.above := by
  induction count with
  | zero => rfl
  | succ j ih => exact ih (Nat.le_of_lt hcount)

/-- One more cell is right, as the three it is made from are, and none of those that were is lost. -/
theorem isRow_writeCell {c : Char} {r : Rows word} {x : List Char} {j : Nat} (hj : j < word.length)
    (habove : IsRow r.above x word.length) (hcurrent : IsRow r.current (c :: x) j) :
    IsRow (r.writeCell c j hj).current (c :: x) (j + 1) := by
  intro k hk hle
  by_cases hlast : k = j + 1
  · subst hlast
    have htake : (word.take (j + 1)).reverse = word[j] :: (word.take j).reverse := by
      rw [List.take_succ_eq_append_getElem hj, List.reverse_append]
      rfl
    have hleft := hcurrent j (by omega) (Nat.le_refl j)
    have hdiagonal := habove j (by omega) (by omega)
    have hup := habove (j + 1) hk (by omega)
    rw [htake] at hup ⊢
    rw [leastEdits_cons_cons, ← hleft, ← hdiagonal, ← hup]
    simp only [writeCell, Vector.getElem_set_self]
    omega
  · simp only [writeCell]
    rw [Vector.getElem_set_ne _ _ (Ne.symm hlast)]
    exact hcurrent k hk (by omega)

/-- All cells are right if they are written from left to right, below a row that is. -/
theorem isRow_writeCells {c : Char} {r : Rows word} {x : List Char}
    (habove : IsRow r.above x word.length) (hcurrent : IsRow r.current (c :: x) 0) (count : Nat)
    (hcount : count ≤ word.length) :
    IsRow (r.writeCells c count hcount).current (c :: x) count := by
  induction count with
  | zero => exact hcurrent
  | succ j ih =>
      apply isRow_writeCell hcount
      · rwa [above_writeCells]
      · exact ih (Nat.le_of_lt hcount)

/-- After a character the row above is that of the prefix with this character. -/
theorem isRow_next {r : Rows word} {x : List Char} (h : IsRow r.above x word.length) (c : Char) :
    IsRow (r.next c x.length).above (c :: x) word.length := by
  have habove : IsRow (r.writeFirst (x.length + 1)).above x word.length := h
  exact isRow_writeCells habove (isRow_writeFirst r (c :: x)) word.length (Nat.le_refl _)

/-- From the row of a prefix, the rows go on to that of any longer one. -/
theorem isRow_foldl_next (chars : List Char) {r : Rows word} {x : List Char}
    (h : IsRow r.above x word.length) :
    IsRow ((chars.zipIdx x.length).foldl (fun r (c, i) => r.next c i) r).above
      (chars.reverse ++ x) word.length := by
  induction chars generalizing r x with
  | nil => exact h
  | cons c chars ih =>
      rw [List.zipIdx_cons, List.foldl_cons, List.reverse_cons, List.append_assoc]
      exact ih (isRow_next h c)

/-- **What the rows hold after a word**: the row above is that of the whole word. -/
theorem isRow_after (chars word : List Char) :
    IsRow (after chars word).above chars.reverse word.length := by
  have hall := isRow_foldl_next chars (isRow_start word)
  rwa [List.append_nil] at hall

end Rows

/-! ## The distance -/

/-- The edit distance of two lists of characters, in the space of two rows. -/
def byTwoRows (a b : List Char) : Nat :=
  if a = [] then b.length
  else if b = [] then a.length
  else (Rows.after a b).above[b.length]

/-- **Two rows are enough**: exchanging them leads to the number that keeping all of them does. -/
theorem byTwoRows_eq (a b : List Char) : byTwoRows a b = ofChars a b := by
  rw [ofChars_eq, byTwoRows]
  split
  · next ha => simp [ha]
  split
  · next hb => simp [hb]
  · have hlast := Rows.isRow_after a b b.length (Nat.lt_succ_self _) (Nat.le_refl _)
    rwa [List.take_length] at hlast

end EditDistance

/-- **The edit distance is the least number of edits.**  Computed in two rows that take turns, it is
the number of single characters to insert, delete or replace in one way to turn the first word into
the second, both in lower case, and in no way are there fewer. -/
theorem isLeast_editDistance (a b : String) :
    editDistance a b = EditDistance.byTwoRows (lower a.toList) (lower b.toList) ∧
      IsLeast {n | EditDistance.Script n (lower a.toList) (lower b.toList)} (editDistance a b) := by
  refine ⟨(EditDistance.byTwoRows_eq _ _).symm, EditDistance.script_ofChars _ _, ?_⟩
  intro n hn
  exact EditDistance.ofChars_le_of_script hn

end Emend
