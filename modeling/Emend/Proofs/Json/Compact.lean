import Emend.Json.Basic
import Emend.Proofs.Json.Token

/-!
# Values are read back

The tokens of a value are read back as the value, by induction on it: what is read of an array or an
object is read with less fuel than there was for its brackets, and two for every token are enough
(`valueOf?_tokens`).  The grammar puts a comma or a closing bracket behind every value in another, so
the tokens of a value can be cut from its text (`isChain_tokens`), and with that the shortest text of
a value is read back as the value (`read?_compact`).
-/

namespace Emend

namespace Json

open Token

/-- A value in which all numbers can be spelled. -/
def IsLegible (j : Json) : Prop := ∀ t ∈ j.tokens, t.IsLegible

/-! ## Tokens -/

/-- A value begins with a token that closes nothing. -/
theorem exists_tokens_eq_cons (j : Json) :
    ∃ t ts, j.tokens = t :: ts ∧ t ≠ .closeBracket ∧ t ≠ .closeBrace := by
  cases j with
  | array vs => cases vs <;> exact ⟨_, _, rfl, by simp, by simp⟩
  | object ms => cases ms <;> exact ⟨_, _, rfl, by simp, by simp⟩
  | _ => exact ⟨_, _, rfl, by simp, by simp⟩

/-! ## Reading tokens -/

/-- An array that does not end at once is read element by element. -/
theorem valueOf?_openBracket {n : Nat} {ts rest : List Token} {vs : List Json}
    (hts : ∀ ts', ts ≠ .closeBracket :: ts') (h : elementsOf? n ts = some (vs, rest)) :
    valueOf? (n + 1) (.openBracket :: ts) = some (array vs, rest) := by
  rw [valueOf?, h]
  · rfl
  · exact hts

/-- An object that does not end at once is read member by member. -/
theorem valueOf?_openBrace {n : Nat} {ts rest : List Token} {ms : List (Option String × Json)}
    (hts : ∀ ts', ts ≠ .closeBrace :: ts') (h : membersOf? n ts = some (ms, rest)) :
    valueOf? (n + 1) (.openBrace :: ts) = some (object ms, rest) := by
  rw [valueOf?, h]
  · rfl
  · exact hts

/-- A bracket ends the elements. -/
theorem elementsOf?_last {n : Nat} {ts rest : List Token} {v : Json}
    (h : valueOf? n ts = some (v, .closeBracket :: rest)) :
    elementsOf? (n + 1) ts = some ([v], rest) := by
  rw [elementsOf?, h]
  rfl

/-- A comma leads to more elements. -/
theorem elementsOf?_comma {n : Nat} {ts ts' rest : List Token} {v : Json} {vs : List Json}
    (h : valueOf? n ts = some (v, .comma :: ts')) (hmore : elementsOf? n ts' = some (vs, rest)) :
    elementsOf? (n + 1) ts = some (v :: vs, rest) := by
  rw [elementsOf?, h]
  simp only [Option.bind_eq_bind, Option.bind_some, hmore]

theorem membersOf?_last {n : Nat} {ts rest : List Token} {key : Option String} {v : Json}
    (h : valueOf? n ts = some (v, .closeBrace :: rest)) :
    membersOf? (n + 1) (.string key :: .colon :: ts) = some ([(key, v)], rest) := by
  rw [membersOf?, h]
  rfl

theorem membersOf?_comma {n : Nat} {ts ts' rest : List Token} {key : Option String} {v : Json}
    {ms : List (Option String × Json)} (h : valueOf? n ts = some (v, .comma :: ts'))
    (hmore : membersOf? n ts' = some (ms, rest)) :
    membersOf? (n + 1) (.string key :: .colon :: ts) = some ((key, v) :: ms, rest) := by
  rw [membersOf?, h]
  simp only [Option.bind_eq_bind, Option.bind_some, hmore]

mutual

/-- **A value is read from its tokens**, with two steps of the recursion for each of them. -/
theorem valueOf?_tokens (j : Json) (ts : List Token) {n : Nat} (hn : 2 * j.tokens.length ≤ n) :
    valueOf? n (j.tokens ++ ts) = some (j, ts) := by
  cases n with
  | zero =>
      obtain ⟨t, front, hfront, -⟩ := exists_tokens_eq_cons j
      simp [hfront] at hn
  | succ n =>
      cases j with
      | array vs =>
          cases vs with
          | nil => rfl
          | cons v vs =>
              obtain ⟨t, front, hfront, hopen, -⟩ := exists_tokens_eq_cons v
              simp only [tokens, List.cons_append, List.length_cons, List.length_append] at hn ⊢
              have hread := elementsOf?_tokens v vs ts (n := n) (by omega)
              apply valueOf?_openBracket _ hread
              rw [hfront]
              exact fun ts' heq => hopen (List.cons.inj heq).1
      | object ms =>
          cases ms with
          | nil => rfl
          | cons m ms =>
              obtain ⟨key, v⟩ := m
              simp only [tokens, List.cons_append, List.length_cons, List.length_append] at hn ⊢
              have hread := membersOf?_tokens key v ms ts (n := n) (by omega)
              exact valueOf?_openBrace (fun ts' heq => nomatch (List.cons.inj heq).1) hread
      | _ => rfl
termination_by n

/-- The elements of an array are read back from their tokens, up to the bracket. -/
theorem elementsOf?_tokens (v : Json) (vs : List Json) (ts : List Token) {n : Nat}
    (hn : 2 * (v.tokens.length + (elementTokens vs).length) < n) :
    elementsOf? n (v.tokens ++ elementTokens vs ++ ts) = some (v :: vs, ts) := by
  cases n with
  | zero => cases hn
  | succ n =>
      have hvalue := valueOf?_tokens v (elementTokens vs ++ ts) (n := n) (by omega)
      rw [← List.append_assoc] at hvalue
      cases vs with
      | nil => exact elementsOf?_last hvalue
      | cons w vs =>
          simp only [elementTokens, List.length_cons, List.length_append] at hn
          have hmore := elementsOf?_tokens w vs ts (n := n) (by omega)
          exact elementsOf?_comma hvalue hmore
termination_by n

/-- The members of an object are read back from their tokens, up to the brace. -/
theorem membersOf?_tokens (key : Option String) (v : Json) (ms : List (Option String × Json))
    (ts : List Token) {n : Nat}
    (hn : 2 * ((memberTokens (key, v)).length + (membersTokens ms).length) < n) :
    membersOf? n (memberTokens (key, v) ++ membersTokens ms ++ ts) = some ((key, v) :: ms, ts) := by
  cases n with
  | zero => cases hn
  | succ n =>
      simp only [memberTokens, List.length_cons] at hn
      have hvalue := valueOf?_tokens v (membersTokens ms ++ ts) (n := n) (by omega)
      rw [← List.append_assoc] at hvalue
      cases ms with
      | nil => exact membersOf?_last hvalue
      | cons m ms =>
          obtain ⟨key', w⟩ := m
          simp only [membersTokens, List.length_cons, List.length_append] at hn
          have hmore := membersOf?_tokens key' w ms ts (n := n) (by omega)
          exact membersOf?_comma hvalue hmore
termination_by n

end

/-- **A value is read back from its tokens.** -/
theorem ofTokens?_tokens (j : Json) : ofTokens? j.tokens = some j := by
  have hread := valueOf?_tokens j [] (Nat.le_succ _)
  rw [List.append_nil] at hread
  rw [ofTokens?, hread]

/-! ## Cutting tokens -/

/-- Nothing but numbers restricts what follows. -/
theorem isChain_cons_of_not_number {t : Token} (ht : t.isNumber = false) {ts : List Token}
    (h : ts.IsChain MayPrecede) : (t :: ts).IsChain MayPrecede :=
  List.isChain_cons.mpr ⟨fun u _ => mayPrecede_of_not_number ht u, h⟩

/-- Before a value in an object there are its key and a colon. -/
theorem isChain_memberTokens (key : Option String) {v : Json} {ts : List Token}
    (h : (v.tokens ++ ts).IsChain MayPrecede) :
    (memberTokens (key, v) ++ ts).IsChain MayPrecede := by
  rw [memberTokens, List.cons_append, List.cons_append]
  exact isChain_cons_of_not_number rfl (isChain_cons_of_not_number rfl h)

/-- The first of the tokens, if there is one, stands after a value. -/
def AfterValue (ts : List Token) : Prop := ∀ t ∈ ts.head?, t.isDelimiter = true

/-- After an element there is a comma or a bracket. -/
theorem afterValue_elementTokens (vs : List Json) (ts : List Token) :
    AfterValue (elementTokens vs ++ ts) := by
  cases vs <;> exact fun t ht => Option.some.inj ht ▸ rfl

theorem afterValue_membersTokens (ms : List (Option String × Json)) (ts : List Token) :
    AfterValue (membersTokens ms ++ ts) := by
  cases ms <;> exact fun t ht => Option.some.inj ht ▸ rfl

mutual

/-- **No token of a value runs into the next**, nor the last into what stands after the value. -/
theorem isChain_tokens (j : Json) {ts : List Token} (hafter : AfterValue ts)
    (h : ts.IsChain MayPrecede) : (j.tokens ++ ts).IsChain MayPrecede := by
  cases j with
  | number n => exact List.isChain_cons.mpr ⟨fun t ht _ => hafter t ht, h⟩
  | array vs =>
      cases vs with
      | nil => exact isChain_cons_of_not_number rfl (isChain_cons_of_not_number rfl h)
      | cons v vs =>
          rw [tokens, List.cons_append, List.cons_append, List.append_assoc]
          apply isChain_cons_of_not_number rfl
          exact isChain_tokens v (afterValue_elementTokens vs ts) (isChain_elementTokens vs h)
  | object ms =>
      cases ms with
      | nil => exact isChain_cons_of_not_number rfl (isChain_cons_of_not_number rfl h)
      | cons m ms =>
          obtain ⟨key, v⟩ := m
          rw [tokens, List.cons_append, List.cons_append, List.append_assoc]
          apply isChain_cons_of_not_number rfl
          apply isChain_memberTokens key
          exact isChain_tokens v (afterValue_membersTokens ms ts) (isChain_membersTokens ms h)
  | _ => exact isChain_cons_of_not_number rfl h

/-- The tokens of the elements can stand next to each other without a blank. -/
theorem isChain_elementTokens (vs : List Json) {ts : List Token} (h : ts.IsChain MayPrecede) :
    (elementTokens vs ++ ts).IsChain MayPrecede := by
  cases vs with
  | nil => exact isChain_cons_of_not_number rfl h
  | cons v vs =>
      rw [elementTokens, List.cons_append, List.cons_append, List.append_assoc]
      apply isChain_cons_of_not_number rfl
      exact isChain_tokens v (afterValue_elementTokens vs ts) (isChain_elementTokens vs h)

theorem isChain_membersTokens (ms : List (Option String × Json)) {ts : List Token}
    (h : ts.IsChain MayPrecede) : (membersTokens ms ++ ts).IsChain MayPrecede := by
  cases ms with
  | nil => exact isChain_cons_of_not_number rfl h
  | cons m ms =>
      obtain ⟨key, v⟩ := m
      rw [membersTokens, List.cons_append, List.cons_append, List.append_assoc]
      apply isChain_cons_of_not_number rfl
      apply isChain_memberTokens key
      exact isChain_tokens v (afterValue_membersTokens ms ts) (isChain_membersTokens ms h)

end

/-- **A legible value is read back from its shortest text.** -/
theorem read?_compact {j : Json} (h : j.IsLegible) : read? j.compact = some j := by
  have hchain : j.tokens.IsChain MayPrecede := by
    rw [← List.append_nil j.tokens]
    exact isChain_tokens j (by simp [AfterValue]) .nil
  rw [read?, compact, String.toList_ofList, ofText?_flatMap_text h hchain]
  exact ofTokens?_tokens j

end Json

end Emend
