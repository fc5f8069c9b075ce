import Emend.Json.Token
import Emend.Proofs.Json.Numeral
import Mathlib.Data.List.Chain

/-!
# Tokens are read back

A string is spelled character by character, and each spelling is read as the one unit that the
character has: a letter after a backslash, four hexadecimal digits, or the character itself.  No
character is half of another, so the units are put together one by one.  All other tokens but numbers
are fixed texts.

Tokens are then cut one by one from the text of many (`ofText?_flatMap_text`).  The end of a token is
found in the token itself, but for a number, which ends where something follows that is no part of
one; so what may follow a token is a condition on the tokens that follow (`IsCuttable`).
-/

namespace Emend

namespace Token

/-! ## Strings -/

/-- Four hexadecimal digits give their unit back. -/
theorem ofDigits_unitDigits {n : Nat} (h : n < 65536) :
    (allDigits? hexValue? (unitDigits n)).map (ofDigits 16) = some n := by
  have hdigits : unitDigits n =
      [n / 4096 % 16, n / 256 % 16, n / 16 % 16, n % 16].map hexDigit := rfl
  have hlt : ∀ d ∈ [n / 4096 % 16, n / 256 % 16, n / 16 % 16, n % 16], d < 16 := by
    simp only [List.mem_cons, List.not_mem_nil, or_false, forall_eq_or_imp, forall_eq]
    omega
  rw [hdigits, allDigits?_map_hexDigit hlt, Option.map_some, Option.some_inj]
  simp only [ofDigits, List.foldl_cons, List.foldl_nil]
  omega

/-- One more unit before what is read from the rest of a string. -/
def consUnit (unit : Nat) : List Nat × List Char → List Nat × List Char
  | (units, rest) => (unit :: units, rest)

/-- An escape with four digits is read as the unit that they spell. -/
theorem stringUnits?_unitDigits {n : Nat} (h : n < 65536) (cs : List Char) :
    stringUnits? ('\\' :: 'u' :: unitDigits n ++ cs) = (stringUnits? cs).map (consUnit n) := by
  obtain ⟨digits, hread, hvalue⟩ := Option.map_eq_some_iff.mp (ofDigits_unitDigits h)
  rw [unitDigits] at hread ⊢
  simp only [List.cons_append, List.nil_append, stringUnits?, hread, hvalue,
    Option.bind_eq_bind, Option.bind_some]
  cases stringUnits? cs <;> rfl

/-- The letters that are written after a backslash are read again. -/
theorem unescapeLetter?_of_escapeLetter? {c e : Char} (h : escapeLetter? c = some e) :
    unescapeLetter? e = some c ∧ e ≠ 'u' := by
  unfold escapeLetter? at h
  split at h
  all_goals first
    | cases h
      decide
    | cases h

/-- An escape with a letter is read as the character that it stands for. -/
theorem stringUnits?_escape {c e : Char} (h : unescapeLetter? e = some c) (hu : e ≠ 'u')
    (cs : List Char) :
    stringUnits? ('\\' :: e :: cs) = (stringUnits? cs).map (consUnit c.toNat) := by
  rw [stringUnits?]
  · simp only [h, Option.bind_eq_bind, Option.bind_some]
    cases stringUnits? cs <;> rfl
  · intro _ _ _ _ _ heq
    exact absurd heq hu

/-- A character that needs no escape is read as it is. -/
theorem stringUnits?_plain {c : Char} (hquote : c ≠ '"') (hbackslash : c ≠ '\\')
    (hcontrol : ¬ c.toNat < 0x20) (cs : List Char) :
    stringUnits? (c :: cs) = (stringUnits? cs).map (consUnit c.toNat) := by
  rw [stringUnits?, if_neg hcontrol]
  · cases stringUnits? cs <;> rfl
  · exact hquote
  · intro _ _ _ _ _ heq
    exact absurd heq hbackslash
  · intro _ _ heq
    exact absurd heq hbackslash

/-- **Every character of a string is read back as its unit.** -/
theorem stringUnits?_charText (c : Char) (cs : List Char) :
    stringUnits? (charText c ++ cs) = (stringUnits? cs).map (consUnit c.toNat) := by
  unfold charText
  cases hletter : escapeLetter? c with
  | some e =>
      obtain ⟨hunescape, hu⟩ := unescapeLetter?_of_escapeLetter? hletter
      exact stringUnits?_escape hunescape hu cs
  | none =>
      have hquote : c ≠ '"' := by
        rintro rfl
        cases hletter
      have hbackslash : c ≠ '\\' := by
        rintro rfl
        cases hletter
      by_cases hcontrol : c.toNat < 0x20
      · have hunit : c.toNat < 65536 := Nat.lt_trans hcontrol (by decide)
        simp only [if_pos hcontrol, stringUnits?_unitDigits hunit cs]
      · simp only [if_neg hcontrol, List.singleton_append,
          stringUnits?_plain hquote hbackslash hcontrol cs]

/-- The characters of a text are read back from their spellings, up to the quote. -/
theorem stringUnits?_flatMap_charText (cs rest : List Char) :
    stringUnits? (cs.flatMap charText ++ '"' :: rest) = some (cs.map Char.toNat, rest) := by
  induction cs with
  | nil => simp only [List.flatMap_nil, List.nil_append, stringUnits?, List.map_nil]
  | cons c cs ih =>
      rw [List.flatMap_cons, List.append_assoc, stringUnits?_charText, ih]
      rfl

/-- No character is one of the halves that characters are made of. -/
theorem not_half (c : Char) : ¬ (0xD800 ≤ c.toNat ∧ c.toNat < 0xE000) := by
  have hvalid : c.toNat < 0xD800 ∨ 0xDFFF < c.toNat ∧ c.toNat < 0x110000 := c.valid
  omega

/-- A unit that is a character is decoded to it. -/
theorem decodeUnits?_cons (c : Char) (units : List Nat) :
    decodeUnits? (c.toNat :: units) = (decodeUnits? units).map (c :: ·) := by
  cases units with
  | nil => simp only [decodeUnits?, if_neg (not_half c), Char.ofNat_toNat, Option.map_some]
  | cons u units => simp only [decodeUnits?, if_neg (not_half c), Char.ofNat_toNat]

/-- A text is decoded from its code points. -/
theorem decodeUnits?_map_toNat (cs : List Char) : decodeUnits? (cs.map Char.toNat) = some cs := by
  induction cs with
  | nil => rfl
  | cons c cs ih => rw [List.map_cons, decodeUnits?_cons, ih, Option.map_some]

/-- **A string is read back**, and one without content as a string without content. -/
theorem readString?_append (content : Option String) (rest : List Char) :
    readString? ((stringText content).tail ++ rest) = some (.string content, rest) := by
  cases content with
  | some s =>
      have hunits := stringUnits?_flatMap_charText s.toList rest
      simp [readString?, stringText, hunits, decodeUnits?_map_toNat]
  | none =>
      have hunits := stringUnits?_unitDigits (n := 0xD800) (by decide) ('"' :: rest)
      simp only [List.cons_append] at hunits
      simp [readString?, stringText, hunits, stringUnits?, consUnit, decodeUnits?]

/-! ## Single tokens -/

/-- A token that can be spelled: all but some numbers. -/
def IsLegible : Token → Prop
  | number n => n.IsLegible
  | _ => True

/-- Whether a token has no end of its own. -/
def isNumber : Token → Bool
  | number _ => true
  | _ => false

/-- Numerals begin as no other token does. -/
theorem read?_number {n : Numeral} (h : n.IsLegible) {rest : List Char}
    (hrest : Numeral.AfterNumeral rest) : read? (n.text ++ rest) = some (number n, rest) := by
  obtain ⟨c, cs, htext, hstart⟩ := Numeral.exists_text_eq_cons h
  have hread := Numeral.read?_append h hrest
  have hfirst : ∀ d ds, n.text ++ rest = d :: ds → Numeral.startsNumeral d = true := by
    intro d ds heq
    rw [htext, List.cons_append] at heq
    rwa [← (List.cons.inj heq).1]
  unfold read?
  split
  all_goals first
    | rw [hread, Option.map_some]
    | exact absurd (hfirst _ _ ‹_›) (by decide)

/-- **Every token is read back** from before what may follow it. -/
theorem read?_text_append {t : Token} (h : t.IsLegible) {rest : List Char}
    (hrest : t.isNumber = true → Numeral.AfterNumeral rest) :
    read? (t.text ++ rest) = some (t, rest) := by
  cases t with
  | number n => exact read?_number h (hrest rfl)
  | string content =>
      rw [← readString?_append content rest]
      cases content <;> rfl
  | bool b => cases b <;> rfl
  | _ => rfl

/-- No token is empty, and none begins as what stands between tokens does. -/
theorem exists_text_eq_cons {t : Token} (h : t.IsLegible) :
    ∃ c cs, t.text = c :: cs ∧ isSpace c = false := by
  cases t with
  | number n =>
      obtain ⟨c, cs, htext, hstart⟩ := Numeral.exists_text_eq_cons h
      refine ⟨c, cs, htext, ?_⟩
      cases hspace : isSpace c with
      | false => rfl
      | true =>
          simp only [isSpace, Bool.or_eq_true, decide_eq_true_eq] at hspace
          rcases hspace with ((rfl | rfl) | rfl) | rfl <;> exact absurd hstart (by decide)
  | string content => cases content <;> exact ⟨'"', _, rfl, rfl⟩
  | bool b => cases b <;> exact ⟨_, _, rfl, rfl⟩
  | _ => exact ⟨_, _, rfl, rfl⟩

/-! ## Cutting -/

/-- Whether a token stands after a value. -/
def isDelimiter : Token → Bool
  | comma => true
  | closeBracket => true
  | closeBrace => true
  | _ => false

/-- Of two tokens that follow each other, the first is seen to end where it does. -/
def MayPrecede (t u : Token) : Prop := t.isNumber = true → u.isDelimiter = true

/-- Only a number has to be told from what follows it. -/
theorem mayPrecede_of_not_number {t : Token} (h : t.isNumber = false) (u : Token) :
    t.MayPrecede u := by
  simp [MayPrecede, h]

/-- A delimiter, or the end, does not go on with a numeral. -/
theorem afterNumeral_flatMap_text {ts : List Token} (h : ∀ t ∈ ts.head?, t.isDelimiter = true) :
    Numeral.AfterNumeral (ts.flatMap text) := by
  cases ts with
  | nil => simp [Numeral.AfterNumeral]
  | cons t ts =>
      have hdelimiter : t.isDelimiter = true := h t rfl
      intro c hc
      cases t with
      | comma =>
          obtain rfl : ',' = c := Option.some.inj hc
          decide
      | closeBracket =>
          obtain rfl : ']' = c := Option.some.inj hc
          decide
      | closeBrace =>
          obtain rfl : '\x7d' = c := Option.some.inj hc
          decide
      | _ => cases hdelimiter

/-- Legible tokens that can stand next to each other are read back one by one. -/
theorem readAll?_flatMap_text {ts : List Token} (hlegible : ∀ t ∈ ts, t.IsLegible)
    (hchain : ts.IsChain MayPrecede) {limit : Nat} (hlimit : ts.length ≤ limit) :
    readAll? limit (ts.flatMap text) = some ts := by
  induction ts generalizing limit with
  | nil => cases limit <;> rfl
  | cons t ts ih =>
      obtain ⟨ht, hts⟩ := List.forall_mem_cons.mp hlegible
      obtain ⟨hnext, hchain⟩ := List.isChain_cons.mp hchain
      obtain ⟨c, cs, htext, hspace⟩ := exists_text_eq_cons ht
      have hread : read? (t.text ++ ts.flatMap text) = some (t, ts.flatMap text) :=
        read?_text_append ht fun hnumber =>
          afterNumeral_flatMap_text fun u hu => hnext u hu hnumber
      cases limit with
      | zero => simp at hlimit
      | succ limit =>
          have hrest := ih hts hchain (Nat.le_of_succ_le_succ hlimit)
          rw [htext] at hread
          rw [List.flatMap_cons, htext, List.cons_append, readAll?,
            List.dropWhile_cons_of_neg (by simp [hspace])]
          simp only [← List.cons_append, hread, hrest, Option.bind_eq_bind, Option.bind_some]

/-- **Tokens are cut from their text.** -/
theorem ofText?_flatMap_text {ts : List Token} (hlegible : ∀ t ∈ ts, t.IsLegible)
    (hchain : ts.IsChain MayPrecede) : ofText? (ts.flatMap text) = some ts := by
  apply readAll?_flatMap_text hlegible hchain
  -- Every token takes a character at least.
  clear hchain
  induction ts with
  | nil => exact Nat.zero_le _
  | cons t ts ih =>
      obtain ⟨ht, hts⟩ := List.forall_mem_cons.mp hlegible
      obtain ⟨c, cs, htext, -⟩ := exists_text_eq_cons ht
      have hrest := ih hts
      rw [List.flatMap_cons, htext, List.length_append, List.length_cons, List.length_cons]
      omega

end Token

end Emend
