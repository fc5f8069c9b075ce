import Emend.Json.Numeral
import Emend.Proofs.Text.Digits

/-!
# Numerals are read back

A numeral is kept as it is spelled, so it is read back digit by digit, without a word about the
number that it denotes.  It has to be a numeral that can be spelled (`Numeral.IsLegible`): digits
below ten, no zero in front of other digits, and a sign of the exponent only where there is an
exponent.  And it has to end where it ends: what follows may not be taken for more of it
(`AfterNumeral`).
-/

namespace Emend

namespace Numeral

/-- A numeral that can be spelled so that nothing of it is lost. -/
structure IsLegible (n : Numeral) : Prop where
  whole_lt : ∀ d ∈ n.whole, d < 10
  whole_ne : n.whole ≠ []
  whole_zero : n.whole.head? = some 0 → n.whole = [0]
  fraction_lt : ∀ d ∈ n.fraction, d < 10
  exponent_lt : ∀ d ∈ n.exponent, d < 10
  exponent_sign : n.exponent = [] → n.exponentNegative = false

/-- Whether a character cannot go on with a numeral. -/
def endsNumeral (c : Char) : Bool := digitValue? c = none && c ≠ '.' && c ≠ 'e' && c ≠ 'E'

/-- A text does not go on with a numeral. -/
def AfterNumeral (cs : List Char) : Prop := ∀ c ∈ cs.head?, endsNumeral c = true

/-- A text does not go on with decimals. -/
def AfterFraction (cs : List Char) : Prop := ∀ c ∈ cs.head?, digitValue? c = none ∧ c ≠ '.'

/-- What does not go on with decimals does not go on with digits. -/
theorem AfterFraction.afterDigits {cs : List Char} (h : AfterFraction cs) : AfterDigits cs :=
  fun c hc => (h c hc).1

/-- What does not go on with a numeral does not go on with decimals. -/
theorem AfterNumeral.afterFraction {cs : List Char} (h : AfterNumeral cs) : AfterFraction cs := by
  intro c hc
  have hends := h c hc
  simp only [endsNumeral, Bool.and_eq_true, decide_eq_true_eq] at hends
  exact hends.1.1

/-! ## The parts of a numeral -/

/-- How decimals are spelled. -/
def fractionText (ds : List Nat) : List Char := if ds = [] then [] else '.' :: digitText ds

/-- How an exponent is spelled. -/
def exponentText (negative : Bool) (ds : List Nat) : List Char :=
  if ds = [] then [] else 'e' :: (if negative then '-' else '+') :: digitText ds

/-- A numeral in front of a text, part by part. -/
theorem text_append (n : Numeral) (rest : List Char) :
    n.text ++ rest = (if n.negative then ['-'] else []) ++ (digitText n.whole ++
      (fractionText n.fraction ++ (exponentText n.exponentNegative n.exponent ++ rest))) := by
  simp [text, fractionText, exponentText]

/-- Digits are read back up to what follows them. -/
theorem leadingDigits_digitText {ds : List Nat} (hlt : ∀ d ∈ ds, d < 10) {rest : List Char}
    (hrest : AfterDigits rest) :
    leadingDigits (digitText ds ++ rest).length (digitText ds ++ rest) = (ds, rest) := by
  have hfits : ds.length ≤ (digitText ds ++ rest).length := by simp [digitText]
  exact leadingDigits_append (spells_map_hexDigit hlt) hfits (.inr hrest)

/-- The digits before the point are read back.  A leading zero has to stand alone. -/
theorem wholePart?_append {ds : List Nat} (hlt : ∀ d ∈ ds, d < 10) (hne : ds ≠ [])
    (hzero : ds.head? = some 0 → ds = [0]) {rest : List Char} (hrest : AfterDigits rest) :
    wholePart? (digitText ds ++ rest) = some (ds, rest) := by
  rw [wholePart?, leadingDigits_digitText hlt hrest]
  cases ds with
  | nil => exact absurd rfl hne
  | cons d ds =>
      cases d with
      | zero =>
          obtain rfl : ds = [] := (List.cons.inj (hzero rfl)).2
          rfl
      | succ d => rfl

/-- Decimals are read back, and none where there are none. -/
theorem fractionPart?_append {ds : List Nat} (hlt : ∀ d ∈ ds, d < 10) {rest : List Char}
    (hrest : AfterFraction rest) :
    fractionPart? (fractionText ds ++ rest) = some (ds, rest) := by
  unfold fractionText
  cases ds with
  | nil =>
      rw [if_pos rfl, List.nil_append]
      unfold fractionPart?
      split
      · exact absurd rfl (hrest '.' rfl).2
      · rfl
  | cons d ds =>
      rw [if_neg (List.cons_ne_nil d ds), List.cons_append, fractionPart?,
        leadingDigits_digitText hlt hrest.afterDigits]

/-- An exponent is read back, with its sign, and none where there is none. -/
theorem exponentPart?_append {negative : Bool} {ds : List Nat} (hlt : ∀ d ∈ ds, d < 10)
    (hsign : ds = [] → negative = false) {rest : List Char} (hrest : AfterNumeral rest) :
    exponentPart? (exponentText negative ds ++ rest) = some (negative, ds, rest) := by
  unfold exponentText
  cases ds with
  | nil =>
      rw [if_pos rfl, List.nil_append, hsign rfl]
      unfold exponentPart?
      split
      all_goals first
        | rfl
        | exact absurd (hrest _ rfl) (by decide)
  | cons d ds =>
      have hread := leadingDigits_digitText hlt hrest.afterFraction.afterDigits
      rw [if_neg (List.cons_ne_nil d ds), List.cons_append, List.cons_append]
      cases negative with
      | false => simp only [exponentPart?, Bool.false_eq_true, if_false, hread]
      | true => simp only [exponentPart?, if_true, hread]

/-- An exponent or what follows it is not taken for decimals. -/
theorem afterFraction_exponentText (negative : Bool) (ds : List Nat) {rest : List Char}
    (hrest : AfterNumeral rest) : AfterFraction (exponentText negative ds ++ rest) := by
  unfold exponentText
  split
  · exact hrest.afterFraction
  · intro c hc
    obtain rfl : 'e' = c := Option.some.inj hc
    decide

/-- Decimals or what follows them are not taken for digits before the point. -/
theorem afterDigits_fractionText (ds : List Nat) {rest : List Char} (hrest : AfterDigits rest) :
    AfterDigits (fractionText ds ++ rest) := by
  unfold fractionText
  split
  · exact hrest
  · exact afterDigits_cons (by decide)

/-- A numeral after its sign begins with a digit. -/
theorem exists_digitText_eq_cons {ds : List Nat} (hlt : ∀ d ∈ ds, d < 10) (hne : ds ≠ []) :
    ∃ c cs d, digitText ds = c :: cs ∧ digitValue? c = some d := by
  cases ds with
  | nil => exact absurd rfl hne
  | cons d ds => exact ⟨_, _, d, rfl, digitValue?_hexDigit (hlt d List.mem_cons_self)⟩

/-- **A legible numeral is read back.** -/
theorem read?_append {n : Numeral} (h : n.IsLegible) {rest : List Char}
    (hrest : AfterNumeral rest) : read? (n.text ++ rest) = some (n, rest) := by
  have hexponent := exponentPart?_append h.exponent_lt h.exponent_sign hrest
  have hafterFraction :=
    afterFraction_exponentText n.exponentNegative n.exponent hrest
  have hfraction := fractionPart?_append h.fraction_lt hafterFraction
  have hafterWhole := afterDigits_fractionText n.fraction hafterFraction.afterDigits
  have hwhole := wholePart?_append h.whole_lt h.whole_ne h.whole_zero hafterWhole
  have hunsigned : ∀ negative, readUnsigned? negative (digitText n.whole ++
      (fractionText n.fraction ++ (exponentText n.exponentNegative n.exponent ++ rest))) =
        some ({ n with negative := negative }, rest) := by
    intro negative
    simp only [readUnsigned?, hwhole, hfraction, hexponent, Option.bind_eq_bind, Option.bind_some]
  rw [text_append]
  cases hsign : n.negative with
  | true =>
      rw [if_pos rfl, List.singleton_append, read?, hunsigned, ← hsign]
  | false =>
      obtain ⟨c, cs, d, hcs, hd⟩ := exists_digitText_eq_cons h.whole_lt h.whole_ne
      have hminus : c ≠ '-' := ne_of_value? hd (by decide)
      rw [if_neg Bool.false_ne_true, List.nil_append, read?, hunsigned, ← hsign]
      intro cs' hcs'
      rw [hcs] at hcs'
      exact hminus (List.cons.inj hcs').1

/-- Whether a character can begin a numeral. -/
def startsNumeral (c : Char) : Bool := c = '-' || digitValue? c ≠ none

/-- The first character of a numeral shows that it is one. -/
theorem exists_text_eq_cons {n : Numeral} (h : n.IsLegible) :
    ∃ c cs, n.text = c :: cs ∧ startsNumeral c = true := by
  have htext := text_append n []
  rw [List.append_nil] at htext
  cases hsign : n.negative with
  | true =>
      rw [hsign, if_pos rfl] at htext
      exact ⟨'-', _, htext, rfl⟩
  | false =>
      obtain ⟨c, cs, d, hcs, hd⟩ := exists_digitText_eq_cons h.whole_lt h.whole_ne
      rw [hsign, if_neg Bool.false_ne_true, List.nil_append, hcs, List.cons_append] at htext
      exact ⟨c, _, htext, by simp [startsNumeral, hd]⟩

end Numeral

end Emend
