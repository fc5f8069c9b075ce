import Emend.Proofs.Line.DisplayRoundTrip
import Emend.Proofs.Modifiers.Words

/-!
# Modifiers that are added to a line

A word with a dash is no target, and it is nobody's value.  So words the first of which has a dash
can be added to what is already typed, after a blank, and nothing before them is read in another
way: added to modifiers they are read on their own, and added to a structured line they leave the
intent, the target and the verdict of the grammar as they are.  Where both name a key, the later one
counts (`appended_modifiers`).
-/

namespace Emend

namespace Line

/-! ## Parts -/

/-- Words that begin with a dash are added to the modifiers. -/
theorem ofWords?_append {first : List Char} (hfirst : isWord first = true)
    {others added : List (List Char)}
    (hadded : ∀ word ∈ added.head?, Modifiers.isDashed word = true) {parts : Parts}
    (h : ofWords? (first :: others) = some parts) :
    ofWords? (first :: (others ++ added)) =
      some { parts with modifiers := parts.modifiers ++ added } := by
  cases others with
  | nil =>
      rw [ofWords?_of_no_target hfirst (by simp), Option.some_inj] at h
      subst h
      exact ofWords?_of_no_target hfirst fun word hword => isWord_of_isDashed (hadded word hword)
  | cons word tail =>
      by_cases hword : isWord word = true
      · rw [ofWords?_of_target hfirst hword, Option.some_inj] at h
        subst h
        exact ofWords?_of_target hfirst hword
      · have hother : ∀ rest, ∀ w ∈ (word :: rest).head?, isWord w = false := by
          intro rest w hw
          obtain rfl : word = w := Option.some.inj hw
          exact Bool.eq_false_iff.mpr hword
        rw [ofWords?_of_no_target hfirst (hother tail), Option.some_inj] at h
        subst h
        exact ofWords?_of_no_target hfirst (hother _)

/-! ## Lines -/

theorem IsTokenLine.line_ne_nil {name line first : List Char} {others : List (List Char)}
    (h : IsTokenLine name line first others) : line ≠ [] := by
  obtain ⟨p, r, hline, -, ⟨c, hc, -⟩, -⟩ := h
  intro hnil
  rw [hline, List.append_eq_nil_iff] at hnil
  rw [hnil.2] at hc
  cases hc

/-- What is added to a token line after a blank adds its words. -/
theorem IsTokenLine.append {name input first rest : List Char} {others : List (List Char)}
    (h : IsTokenLine name (trim input) first others) (hrest : AtBoundary rest) :
    IsTokenLine name (trim (input ++ rest)) first (others ++ words rest) := by
  obtain ⟨rest', htrim, hboundary, hadded⟩ := exists_trim_append h.line_ne_nil hrest
  obtain ⟨p, r, hline, hp, ⟨c, hc, hblank⟩, hwords, hfirst⟩ := h
  refine ⟨p, r ++ rest', ?_, hp, ⟨c, ?_, hblank⟩, ?_, hfirst⟩
  · rw [htrim, hline, List.append_assoc]
  · rw [List.head?_append, Option.mem_def.mp hc]
    rfl
  · rw [words_append_boundary r hboundary, hwords, hadded, List.cons_append]

/-- A line that is split is not blank. -/
theorem isBlankText_of_split? {name : List Char} {input : String} {parts : Parts}
    (h : split? name (trim input.toList) = some parts) : isBlankText input = false := by
  obtain ⟨first, others, htoken⟩ := exists_isTokenLine h
  rw [isBlankText, ← Bool.not_eq_true, List.all_eq_true, ← trim_eq_nil_iff]
  exact htoken.line_ne_nil

/-- Words that begin with a dash are added to the modifiers and to nothing else. -/
theorem split?_append {name input rest : List Char} {parts : Parts}
    (h : split? name (trim input) = some parts) (hrest : AtBoundary rest)
    (hadded : ∀ word ∈ (words rest).head?, Modifiers.isDashed word = true) :
    split? name (trim (input ++ rest)) =
      some { parts with modifiers := parts.modifiers ++ words rest } := by
  obtain ⟨first, others, htoken⟩ := exists_isTokenLine h
  rw [split?_of_isTokenLine htoken] at h
  rw [split?_of_isTokenLine (htoken.append hrest)]
  exact ofWords?_append htoken.isWord hadded h

/-- The line is read as before, with the words that are added among its modifiers. -/
theorem read_append {v : Vocabulary} {x rest : String} {parts : Parts}
    (hsplit : split? v.programName.toList (trim x.toList) = some parts)
    (hrest : AtBoundary rest.toList)
    (hadded : ∀ word ∈ (words rest.toList).head?, Modifiers.isDashed word = true) :
    read v (x ++ rest) = .ok
      { judged v (parts.command x) with
        command := { (judged v (parts.command x)).command with
          raw := x ++ rest
          modifiers := Modifiers.collect
            (Modifiers.ofWords parts.modifiers ++ Modifiers.ofWords (words rest.toList)) } } := by
  have hsplit' := split?_append hsplit hrest hadded
  rw [← String.toList_append] at hsplit'
  rw [read_of_split?_eq_some (isBlankText_of_split? hsplit') hsplit',
    ← Modifiers.ofWords_append (Or.inr hadded)]
  exact congrArg Except.ok (judged_map (f := fun c => { c with raw := x ++ rest, modifiers := _ })
    (c := parts.command x) rfl rfl)

end Line

/-- **Words that begin with a dash can be added.**  Added to modifiers after a blank, they are read
on their own, and what they say of a key counts; added to a structured line, they change its text
and its modifiers in the same way, and neither its intent and target nor the verdict of the grammar.
-/
theorem appended_modifiers {x blanks y : String} (hne : blanks ≠ "")
    (hblanks : isBlankText blanks = true)
    (hadded : ∀ word ∈ (words y.toList).head?, Modifiers.isDashed word = true) :
    (∀ key, (Modifiers.read (x ++ blanks ++ y)).get? key =
      ((Modifiers.read y).get? key).or ((Modifiers.read x).get? key)) ∧
    ∀ (v : Vocabulary) (p : ParsedLine), Line.read v x = .ok p → p.form = .structured →
      ∃ q, Line.read v (x ++ blanks ++ y) = .ok q ∧ q.form = .structured ∧
        q.grammarError = p.grammarError ∧
        q.command =
          { p.command with raw := x ++ blanks ++ y, modifiers := q.command.modifiers } ∧
        ∀ key, q.command.modifiers.get? key =
          ((Modifiers.read y).get? key).or (p.command.modifiers.get? key) := by
  refine ⟨Modifiers.get?_read_append hne hblanks hadded, ?_⟩
  intro v p hread hform
  obtain ⟨parts, hsplit, rfl⟩ := Line.exists_parts_of_structured hread hform
  obtain ⟨hboundary, hwords⟩ := words_after_blanks hne hblanks y
  rw [← hwords] at hadded
  rw [String.append_assoc]
  refine ⟨_, Line.read_append hsplit hboundary hadded, hform, rfl, rfl, ?_⟩
  intro key
  rw [Line.judged_command, hwords, Modifiers.get?_collect_append]
  rfl

/-- A line that ends in a flag, which could have taken a word without a dash as its value. -/
theorem appended_modifiers_format :
    let x := "mender deploy staging --format"
    let y := "--format=json -v"
    (" " ≠ "" ∧ isBlankText " " = true ∧
      ∀ word ∈ (words y.toList).head?, Modifiers.isDashed word = true) ∧
    (Modifiers.read (x ++ " " ++ y)).get? "format" =
      ((Modifiers.read y).get? "format").or ((Modifiers.read x).get? "format") ∧
    ∃ p q, Line.read .builtIn x = .ok p ∧ p.form = .structured ∧
      Line.read .builtIn (x ++ " " ++ y) = .ok q ∧ q.form = .structured ∧
      q.command.intent = "deploy" ∧ q.command.target = "staging" ∧
      p.command.modifiers.get? "format" = some "true" ∧
      q.command.modifiers.get? "format" = some "json" := by
  intro x y
  have hblanks : isBlankText " " = true := by decide
  have hadded : ∀ word ∈ (words y.toList).head?, Modifiers.isDashed word = true := by
    have hfirst : (words y.toList).head? = some "--format=json".toList := by decide +kernel
    rw [hfirst]
    intro word hword
    obtain rfl := Option.some.inj hword
    decide
  obtain ⟨hread, hline⟩ := appended_modifiers (x := x) (by decide) hblanks hadded
  have hknown : (Line.read .builtIn x).map (fun p => (p.form, p.command.intent, p.command.target,
      p.command.modifiers.get? "format")) =
        .ok (.structured, "deploy", "staging", some "true") := by
    decide +kernel
  cases hp : Line.read .builtIn x with
  | error e =>
      rw [hp] at hknown
      cases hknown
  | ok p =>
      rw [hp] at hknown
      obtain ⟨hform, hintent, htarget, hformat⟩ : p.form = .structured ∧
          p.command.intent = "deploy" ∧ p.command.target = "staging" ∧
            p.command.modifiers.get? "format" = some "true" := by
        simpa using Except.ok.inj hknown
      obtain ⟨q, hq, hqform, -, hcommand, hmodifiers⟩ := hline .builtIn p hp hform
      refine ⟨⟨by decide, hblanks, hadded⟩, hread "format", p, q, rfl, hform, hq, hqform, ?_, ?_,
        hformat, ?_⟩
      · rw [hcommand]
        exact hintent
      · rw [hcommand]
        exact htarget
      · have hjson : (Modifiers.read y).get? "format" = some "json" := by decide +kernel
        rw [hmodifiers, hjson]
        rfl

end Emend
