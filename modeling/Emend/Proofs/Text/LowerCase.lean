import Emend.Line
import Emend.Proofs.Text.CaseRuns

/-!
# Lower case is reached at once

A character is *settled* if it is its own lower case.  Everything that lower-casing writes is
settled, the two characters of `İ` and both small sigmas included, and a text of settled
characters is copied as it is: a settled character is neither of the two that are treated
apart, so the context of a sigma plays no part in it.  Hence `lower_lower`, and with it that
a word may be lower-cased before it is looked up or not.

A word made of word characters stays one (`isWord_lower`), and no text vanishes
(`lower_eq_nil_iff`).
-/

namespace Emend

/-- A character that lower-casing leaves alone. -/
def IsSettled (c : Char) : Prop := lowerChar c = [c]

instance (c : Char) : Decidable (IsSettled c) := by
  unfold IsSettled
  infer_instance

/-! ## Single characters -/

/-- All letters but one have a lower case of one character, which is in the table. -/
theorem lowerChar_of_ne {c : Char} (hc : c ≠ 'İ') :
    lowerChar c = [Char.ofNat (CaseRun.lookup lowerRuns c.toNat)] := by
  rw [lowerChar, if_neg hc]

/-- A valid code point is that of its character. -/
theorem toNat_ofNat {n : Nat} (h : n.isValidChar) : (Char.ofNat n).toNat = n := by
  unfold Char.ofNat
  rw [dif_pos h]
  rfl

/-- What the table makes of a character: itself, or a character of the very code point that
the table names, which is not that of `İ`. -/
theorem ofNat_lookup_lower (c : Char) :
    Char.ofNat (CaseRun.lookup lowerRuns c.toNat) = c ∨
      (Char.ofNat (CaseRun.lookup lowerRuns c.toNat)).toNat = CaseRun.lookup lowerRuns c.toNat ∧
        CaseRun.lookup lowerRuns c.toNat ≠ 0x130 := by
  rcases CaseRun.lookup_cases lowerRuns c.toNat with heq | ⟨r, hr, hm, heq⟩
  · left
    rw [heq, Char.ofNat_toNat]
  · right
    obtain ⟨-, hvalid, hdot⟩ := lower_image_facts hr hm
    rw [heq]
    exact ⟨toNat_ofNat hvalid, hdot⟩

/-- The lower case of a character is settled. -/
theorem settled_of_mem_lowerChar {c d : Char} (h : d ∈ lowerChar c) : IsSettled d := by
  by_cases hc : c = 'İ'
  · subst hc
    have hd : d = 'i' ∨ d = '\u0307' := by simpa [lowerChar] using h
    rcases hd with rfl | rfl <;> decide
  · rw [lowerChar_of_ne hc, List.mem_singleton] at h
    subst h
    rcases ofNat_lookup_lower c with heq | ⟨hcode, hdot⟩
    · rw [heq]
      unfold IsSettled
      rw [lowerChar_of_ne hc, heq]
    · have hne : Char.ofNat (CaseRun.lookup lowerRuns c.toNat) ≠ 'İ' := by
        intro heq
        apply hdot
        rw [← hcode, heq]
        rfl
      unfold IsSettled
      rw [lowerChar_of_ne hne, hcode, lookup_lower_settled]

/-- The lower case of a word character is made of word characters. -/
theorem isWordChar_of_mem_lowerChar {c d : Char} (hc : isWordChar c = true)
    (h : d ∈ lowerChar c) : isWordChar d = true := by
  by_cases hdot : c = 'İ'
  · subst hdot
    have hd : d = 'i' ∨ d = '\u0307' := by simpa [lowerChar] using h
    rcases hd with rfl | rfl <;> decide
  · rw [lowerChar_of_ne hdot, List.mem_singleton] at h
    subst h
    rcases ofNat_lookup_lower c with heq | ⟨hcode, -⟩
    · rw [heq]
      exact hc
    · unfold isWordChar
      rw [hcode]
      exact covers_lookup_lower hc

/-- A blank has no lower case but itself. -/
theorem lowerChar_of_isBlank {c : Char} (h : isBlank c = true) : lowerChar c = [c] := by
  have hdot : c ≠ 'İ' := by
    rintro rfl
    exact absurd h (by decide)
  rw [lowerChar_of_ne hdot, lookup_lower_of_isBlank h, Char.ofNat_toNat]

/-- No letter becomes a blank: what the table makes of a character is a word character. -/
theorem isBlank_of_mem_lowerChar {c d : Char} (hc : isBlank c = false) (h : d ∈ lowerChar c) :
    isBlank d = false := by
  by_cases hdot : c = 'İ'
  · subst hdot
    have hd : d = 'i' ∨ d = '\u0307' := by simpa [lowerChar] using h
    rcases hd with rfl | rfl <;> decide
  · rw [lowerChar_of_ne hdot, List.mem_singleton] at h
    subst h
    rcases CaseRun.lookup_cases lowerRuns c.toNat with heq | ⟨r, hr, hm, heq⟩
    · rw [heq, Char.ofNat_toNat]
      exact hc
    · obtain ⟨hcovers, hvalid, -⟩ := lower_image_facts hr hm
      rw [heq]
      apply isBlank_of_isWordChar
      unfold isWordChar
      rwa [toNat_ofNat hvalid]

/-- No character is lost in lower case. -/
theorem lowerChar_ne_nil (c : Char) : lowerChar c ≠ [] := by
  unfold lowerChar
  split <;> exact List.cons_ne_nil _ _

/-- A settled character is not a capital sigma. -/
theorem IsSettled.ne_sigma {c : Char} (h : IsSettled c) : c ≠ 'Σ' := by
  intro heq
  subst heq
  exact absurd h (by decide)

/-! ## Texts -/

/-- Whatever the context, a written character is one of a lower case or a small sigma. -/
theorem mem_lowerFrom {d : Char} {cs : List Char} {afterCased : Bool}
    (h : d ∈ lowerFrom afterCased cs) :
    (∃ c ∈ cs, d ∈ lowerChar c) ∨ ('Σ' ∈ cs ∧ (d = 'ς' ∨ d = 'σ')) := by
  induction cs generalizing afterCased with
  | nil => cases h
  | cons c cs ih =>
      rw [lowerFrom] at h
      have later : ∀ b, d ∈ lowerFrom b cs →
          (∃ c' ∈ c :: cs, d ∈ lowerChar c') ∨ ('Σ' ∈ c :: cs ∧ (d = 'ς' ∨ d = 'σ')) := by
        intro b hb
        rcases ih hb with ⟨c', hc', hd⟩ | ⟨hc', hd⟩
        · exact Or.inl ⟨c', List.mem_cons_of_mem _ hc', hd⟩
        · exact Or.inr ⟨List.mem_cons_of_mem _ hc', hd⟩
      by_cases hc : c = 'Σ'
      · rw [if_pos hc] at h
        rcases List.mem_cons.mp h with hd | hd
        · refine Or.inr ⟨hc ▸ List.mem_cons_self, ?_⟩
          rw [hd]
          split <;> simp
        · exact later _ hd
      · rw [if_neg hc] at h
        rcases List.mem_append.mp h with hd | hd
        · exact Or.inl ⟨c, List.mem_cons_self, hd⟩
        · exact later _ hd

/-- A text in lower case is settled in every character. -/
theorem settled_of_mem_lower {d : Char} {cs : List Char} (h : d ∈ lower cs) : IsSettled d := by
  rcases mem_lowerFrom h with ⟨c, -, hd⟩ | ⟨-, rfl | rfl⟩
  · exact settled_of_mem_lowerChar hd
  · decide
  · decide

/-- A text of settled characters is copied. -/
theorem lowerFrom_eq_self {cs : List Char} (h : ∀ c ∈ cs, IsSettled c) (afterCased : Bool) :
    lowerFrom afterCased cs = cs := by
  induction cs generalizing afterCased with
  | nil => rfl
  | cons c cs ih =>
      have hc : IsSettled c := h c List.mem_cons_self
      rw [lowerFrom, if_neg hc.ne_sigma, ih (fun d hd => h d (List.mem_cons_of_mem _ hd)), hc]
      rfl

/-- **Lower-casing is idempotent.** -/
theorem lower_lower (cs : List Char) : lower (lower cs) = lower cs :=
  lowerFrom_eq_self (fun _ => settled_of_mem_lower) false

/-- Only the empty text is empty in lower case, wherever it begins. -/
theorem lowerFrom_eq_nil_iff {cs : List Char} {afterCased : Bool} :
    lowerFrom afterCased cs = [] ↔ cs = [] := by
  cases cs with
  | nil => exact Iff.rfl
  | cons c cs =>
      simp only [lowerFrom, reduceCtorEq, iff_false]
      split
      · exact List.cons_ne_nil _ _
      · simp [lowerChar_ne_nil]

theorem lower_eq_nil_iff {cs : List Char} : lower cs = [] ↔ cs = [] := lowerFrom_eq_nil_iff

/-- The lower case of a word of word characters is one. -/
theorem isWord_lower {cs : List Char} (h : Line.isWord cs = true) :
    Line.isWord (lower cs) = true := by
  rw [Line.isWord, List.all_eq_true] at *
  intro d hd
  rcases mem_lowerFrom hd with ⟨c, hc, hd⟩ | ⟨-, rfl | rfl⟩
  · exact isWordChar_of_mem_lowerChar (h c hc) hd
  · decide
  · decide

/-! ## Strings -/

@[simp] theorem toList_lowercase (s : String) : (lowercase s).toList = lower s.toList := by
  simp [lowercase]

/-- **Lower-casing twice is lower-casing once.** -/
@[simp] theorem lowercase_lowercase (s : String) : lowercase (lowercase s) = lowercase s := by
  apply String.toList_injective
  simp [lower_lower]

/-- Only the empty word is empty in lower case. -/
@[simp] theorem lowercase_eq_empty_iff {s : String} : lowercase s = "" ↔ s = "" := by
  rw [← String.toList_eq_nil_iff, toList_lowercase, lower_eq_nil_iff, String.toList_eq_nil_iff]

/-- Words that differ in nothing but case are empty together. -/
theorem eq_empty_congr {a b : String} (h : lowercase a = lowercase b) : a = "" ↔ b = "" := by
  rw [← lowercase_eq_empty_iff, h, lowercase_eq_empty_iff]

end Emend
