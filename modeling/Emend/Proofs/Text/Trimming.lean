import Emend.Proofs.Text.LowerCase
import Emend.Proofs.Text.Words

/-!
# Trimming and lower case

A text can be trimmed before it is lower-cased or after.  Blanks are copied by lower-casing and
nothing else becomes a blank, so the blanks at the ends stay where they are; and to a capital sigma a
blank is as good as the end of the text, for it has no case and is not looked through.
`lower_trim` follows from the two ends taken one by one.
-/

namespace Emend

/-! ## One character at a time -/

/-- A blank is copied, and what comes after it starts afresh. -/
theorem lowerFrom_cons_blank {c : Char} (h : isBlank c = true) (afterCased : Bool)
    (cs : List Char) : lowerFrom afterCased (c :: cs) = c :: lowerFrom false cs := by
  have hsettled : IsSettled c := lowerChar_of_isBlank h
  rw [lowerFrom, if_neg hsettled.ne_sigma, lowerChar_of_isBlank h, isCaseIgnorable_of_isBlank h,
    isCased_of_isBlank h]
  rfl

/-- What is written for a character is never nothing, and holds no blank unless the character
is one. -/
theorem exists_lowerFrom_cons (afterCased : Bool) (c : Char) (cs : List Char) :
    ∃ front afterCased', lowerFrom afterCased (c :: cs) = front ++ lowerFrom afterCased' cs ∧
      front ≠ [] ∧ (isBlank c = false → ∀ d ∈ front, isBlank d = false) := by
  rw [lowerFrom]
  by_cases hsigma : c = 'Σ'
  · rw [if_pos hsigma]
    refine ⟨[_], _, rfl, List.cons_ne_nil _ _, ?_⟩
    intro _ d hd
    rw [List.mem_singleton] at hd
    subst hd
    split <;> decide
  · rw [if_neg hsigma]
    exact ⟨_, _, rfl, lowerChar_ne_nil c, fun hc d => isBlank_of_mem_lowerChar hc⟩

/-! ## Blanks in front -/

/-- A text that does not begin with a blank does not in lower case, either. -/
theorem isBlank_head_lower {c : Char} (hc : isBlank c = false) (cs : List Char) :
    ∀ d ∈ (lower (c :: cs)).head?, isBlank d = false := by
  obtain ⟨front, afterCased, heq, hne, hfront⟩ := exists_lowerFrom_cons false c cs
  intro d hd
  rw [lower, heq, List.head?_append_of_ne_nil _ hne] at hd
  exact hfront hc d (List.mem_of_head? hd)

/-- Blanks in front can be dropped before or after lower-casing. -/
theorem lower_trimStart (cs : List Char) : lower (trimStart cs) = trimStart (lower cs) := by
  induction cs with
  | nil => rfl
  | cons c cs ih =>
      cases hc : isBlank c with
      | true =>
          have hskip : trimStart (c :: cs) = trimStart cs := List.dropWhile_cons_of_pos hc
          have hlower : lower (c :: cs) = c :: lower cs := lowerFrom_cons_blank hc false cs
          rw [hskip, hlower, ih]
          exact (List.dropWhile_cons_of_pos hc).symm
      | false =>
          have hkeep : trimStart (c :: cs) = c :: cs := trimStart_eq_self (by simp [hc])
          rw [hkeep, trimStart_eq_self (isBlank_head_lower hc cs)]

/-! ## Blanks at the end -/

/-- A blank at the end does not make a letter follow. -/
theorem startsCased_append_blank {c : Char} (h : isBlank c = true) (cs : List Char) :
    startsCased (cs ++ [c]) = startsCased cs := by
  induction cs with
  | nil => simp [startsCased, isCaseIgnorable_of_isBlank h, isCased_of_isBlank h]
  | cons d cs ih =>
      unfold startsCased at *
      cases hd : isCaseIgnorable d with
      | true => simpa [hd] using ih
      | false => simp [hd]

/-- A blank at the end changes nothing before it, and is kept. -/
theorem lowerFrom_append_blank {c : Char} (h : isBlank c = true) (afterCased : Bool)
    (cs : List Char) : lowerFrom afterCased (cs ++ [c]) = lowerFrom afterCased cs ++ [c] := by
  induction cs generalizing afterCased with
  | nil => exact lowerFrom_cons_blank h afterCased []
  | cons d cs ih =>
      rw [List.cons_append, lowerFrom, lowerFrom, startsCased_append_blank h, ih]
      split
      · rfl
      · rw [List.append_assoc]

/-- A text that does not end with a blank does not in lower case, either. -/
theorem isBlank_getLast_lowerFrom {c : Char} (hc : isBlank c = false) (afterCased : Bool)
    (cs : List Char) : ∀ d ∈ (lowerFrom afterCased (cs ++ [c])).getLast?, isBlank d = false := by
  induction cs generalizing afterCased with
  | nil =>
      obtain ⟨front, afterCased', heq, -, hfront⟩ := exists_lowerFrom_cons afterCased c []
      intro d hd
      rw [List.nil_append, heq, lowerFrom, List.append_nil] at hd
      exact hfront hc d (List.mem_of_getLast? hd)
  | cons e cs ih =>
      obtain ⟨front, afterCased', heq, -, -⟩ := exists_lowerFrom_cons afterCased e (cs ++ [c])
      have hrest : lowerFrom afterCased' (cs ++ [c]) ≠ [] := by
        simp [lowerFrom_eq_nil_iff]
      rw [List.cons_append, heq, List.getLast?_append_of_ne_nil _ hrest]
      exact ih afterCased'

/-- Blanks at the end can be dropped before or after lower-casing. -/
theorem lower_trimEnd (cs : List Char) : lower (trimEnd cs) = trimEnd (lower cs) := by
  simp only [trimEnd_eq]
  induction cs using List.reverseRecOn with
  | nil => rfl
  | append_singleton cs c ih =>
      cases hc : isBlank c with
      | true =>
          have hlower : lower (cs ++ [c]) = lower cs ++ [c] := lowerFrom_append_blank hc false cs
          rw [hlower, List.rdropWhile_concat_pos _ _ _ hc, List.rdropWhile_concat_pos _ _ _ hc, ih]
      | false =>
          rw [List.rdropWhile_concat_neg _ _ _ (by simp [hc]), eq_comm,
            List.rdropWhile_eq_self_iff]
          intro hne
          simp [isBlank_getLast_lowerFrom hc false cs _ (List.getLast?_eq_some_getLast hne)]

/-! ## Both ends -/

/-- **Lower-casing commutes with trimming.** -/
theorem lower_trim (cs : List Char) : lower (trim cs) = trim (lower cs) := by
  rw [trim, trim, lower_trimEnd, lower_trimStart]

/-- A trimmed text has nothing to trim. -/
@[simp] theorem trim_trim (cs : List Char) : trim (trim cs) = trim cs :=
  trim_eq_self (isBlank_head_trim cs) (isBlank_getLast_trim cs)

@[simp] theorem trimmed_trimmed (s : String) : trimmed (trimmed s) = trimmed s := by
  simp [trimmed]

/-- **Trimming and lower-casing commute.** -/
theorem lowercase_trimmed (s : String) : lowercase (trimmed s) = trimmed (lowercase s) := by
  simp [trimmed, lowercase, lower_trim]

end Emend
