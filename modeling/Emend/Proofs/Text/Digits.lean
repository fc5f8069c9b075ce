import Emend.Text.Digits
import Mathlib.Algebra.Group.Nat.Defs
import Mathlib.Data.List.Forall2

/-!
# Digits are read back

Numbers are read off the front of a text, so what is said of them is said of a number followed by
more: the digits of a number are read up to the end of a field of fixed width, or up to the first
character that is no digit (`leadingDigits_append`).  `Spells` relates digits to the characters they
are written as, and holds of hexadecimal digits below ten as well as of numbers written in a field
with zeros in front, so one lemma serves numerals, times and years.

What is read from end to end, such as the digits of an identifier, is read item by item
(`mapM_map_eq_some`), and so are the elements of an array later on.
-/

namespace Emend

/-- Reading every item of a list. -/
theorem mapM_eq_some_map {α β : Type} {f : α → Option β} {g : α → β} {l : List α}
    (h : ∀ a ∈ l, f a = some (g a)) : l.mapM f = some (l.map g) := by
  induction l with
  | nil => rfl
  | cons a l ih =>
      obtain ⟨ha, hl⟩ := List.forall_mem_cons.mp h
      rw [List.mapM_cons, ha, ih hl]
      rfl

/-- Items that are read as they were written, one by one, are read in a list. -/
theorem mapM_map_eq_some {α β : Type} {write : α → β} {read : β → Option α} {l : List α}
    (h : ∀ a ∈ l, read (write a) = some a) : (l.map write).mapM read = some l := by
  have hread : ∀ a ∈ l, (read ∘ write) a = some (id a) := h
  rw [List.mapM_map, mapM_eq_some_map hread, List.map_id]

/-- Digits are written as these characters. -/
def Spells : List Nat → List Char → Prop := List.Forall₂ fun d c => digitValue? c = some d

/-- A text does not go on with a digit. -/
def AfterDigits (cs : List Char) : Prop := ∀ c ∈ cs.head?, digitValue? c = none

/-- A character that is no digit ends the digits. -/
theorem afterDigits_cons {c : Char} {cs : List Char} (h : digitValue? c = none) :
    AfterDigits (c :: cs) := by
  simpa [AfterDigits] using h

/-! ## Single digits -/

/-- A decimal digit is read back. -/
theorem digitValue?_hexDigit {d : Nat} (h : d < 10) : digitValue? (hexDigit d) = some d := by
  have hall : ∀ d < 10, digitValue? (hexDigit d) = some d := by decide
  exact hall d h

theorem hexValue?_hexDigit {d : Nat} (h : d < 16) : hexValue? (hexDigit d) = some d := by
  have hall : ∀ d < 16, hexValue? (hexDigit d) = some d := by decide
  exact hall d h

/-- The value of a digit is its distance from zero. -/
theorem digitValue?_of_isDigit {c : Char} (h : c.isDigit = true) :
    digitValue? c = some (c.toNat - '0'.toNat) := by
  rw [Char.isDigit, Bool.and_eq_true, decide_eq_true_eq, decide_eq_true_eq] at h
  have hrange : '0' ≤ c ∧ c ≤ '9' := h
  exact if_pos hrange

/-- A character that is a digit is one of ten. -/
theorem eq_hexDigit_of_digitValue? {c : Char} {d : Nat} (h : digitValue? c = some d) :
    d < 10 ∧ c = hexDigit d := by
  unfold digitValue? at h
  split at h
  · next hrange =>
      obtain ⟨hlow, hhigh⟩ : '0'.toNat ≤ c.toNat ∧ c.toNat ≤ '9'.toNat := hrange
      have hd : c.toNat - '0'.toNat = d := Option.some.inj h
      have hlt : d < 10 := by
        rw [← hd]
        exact Nat.lt_succ_of_le (Nat.sub_le_sub_right hhigh _)
      have hsum : '0'.toNat + d = c.toNat := by
        rw [← hd]
        exact Nat.add_sub_cancel' hlow
      refine ⟨hlt, ?_⟩
      rw [hexDigit, if_pos hlt, hsum, Char.ofNat_toNat]
  · cases h

/-- A digit is not a sign, nor any other character that has no value. -/
theorem ne_of_value? {value? : Char → Option Nat} {c d : Char} {n : Nat} (hc : value? c = some n)
    (hd : value? d = none) : c ≠ d := by
  intro heq
  rw [heq, hd] at hc
  cases hc

/-- The digits of numbers below ten spell these numbers. -/
theorem spells_map_hexDigit {ds : List Nat} (h : ∀ d ∈ ds, d < 10) :
    Spells ds (ds.map hexDigit) := by
  rw [Spells, List.forall₂_map_right_iff, List.forall₂_same]
  exact fun d hd => digitValue?_hexDigit (h d hd)

/-- Hexadecimal digits are read back all together. -/
theorem allDigits?_map_hexDigit {ds : List Nat} (h : ∀ d ∈ ds, d < 16) :
    allDigits? hexValue? (ds.map hexDigit) = some ds :=
  mapM_map_eq_some fun d hd => hexValue?_hexDigit (h d hd)

/-- A text with a character that is no digit is not made of digits. -/
theorem allDigits?_eq_none {value? : Char → Option Nat} {cs : List Char} {c : Char} (hc : c ∈ cs)
    (h : value? c = none) : allDigits? value? cs = none := by
  induction cs with
  | nil => cases hc
  | cons d cs ih =>
      rw [allDigits?] at ih ⊢
      rw [List.mapM_cons]
      rcases List.mem_cons.mp hc with rfl | hmem
      · rw [h]
        rfl
      · rw [ih hmem]
        cases value? d <;> rfl

/-! ## Reading the front of a text -/

/-- **Digits are read back**: all of them, if they fill the field or are followed by something
else. -/
theorem leadingDigits_append {ds : List Nat} {cs rest : List Char} {limit : Nat} (h : Spells ds cs)
    (hfits : ds.length ≤ limit) (hend : ds.length = limit ∨ AfterDigits rest) :
    leadingDigits limit (cs ++ rest) = (ds, rest) := by
  induction h generalizing limit with
  | nil =>
      rw [List.nil_append]
      cases limit with
      | zero => rfl
      | succ limit =>
          have hafter : AfterDigits rest := hend.resolve_left (by simp)
          cases rest with
          | nil => rfl
          | cons c rest =>
              have hc : digitValue? c = none := hafter c rfl
              simp only [leadingDigits, hc]
  | @cons d c ds cs hd hds ih =>
      cases limit with
      | zero => simp at hfits
      | succ limit =>
          simp only [List.length_cons, Nat.add_le_add_iff_right, Nat.add_right_cancel_iff] at hfits hend
          simp only [List.cons_append, leadingDigits, hd, ih hfits hend]

/-- A number is read back from its digits, up to the limit or to what ends them. -/
theorem leadingNumber?_append {ds : List Nat} {cs rest : List Char} {limit : Nat}
    (h : Spells ds cs) (hne : ds ≠ []) (hfits : ds.length ≤ limit)
    (hend : ds.length = limit ∨ AfterDigits rest) :
    leadingNumber? limit (cs ++ rest) = some (ofDigits 10 ds, rest) := by
  rw [leadingNumber?, leadingDigits_append h hfits hend]
  cases ds with
  | nil => exact absurd rfl hne
  | cons d ds => rfl

/-! ## Numbers in a field -/

/-- Adding up digits is what the library does with their characters. -/
theorem foldl_eq_ofDigitChars {ds : List Nat} {cs : List Char} (h : Spells ds cs) (n : Nat) :
    ds.foldl (fun n d => n * 10 + d) n = Nat.ofDigitChars 10 cs n := by
  induction h generalizing n with
  | nil => rfl
  | @cons d c ds cs hd hds ih =>
      have hvalue : d = c.toNat - '0'.toNat := by
        unfold digitValue? at hd
        split at hd
        · exact (Option.some.inj hd).symm
        · cases hd
      rw [List.foldl_cons, ih, hvalue, Nat.mul_comm]
      rfl

/-- Any number of zeros comes to nothing. -/
theorem ofDigitChars_replicate_zero (count : Nat) :
    Nat.ofDigitChars 10 (List.replicate count '0') 0 = 0 := by
  induction count with
  | zero => rfl
  | succ count ih => exact ih

/-- A padded number is made of digits. -/
theorem isDigit_of_mem_paddedDecimal {width n : Nat} {c : Char} (h : c ∈ paddedDecimal width n) :
    c.isDigit = true := by
  rcases List.mem_append.mp h with hzero | hdigit
  · rw [List.eq_of_mem_replicate hzero]
    rfl
  · exact Nat.isDigit_of_mem_toDigits (by decide) (by decide) hdigit

/-- A number in a field is spelled by digits: at least as many as the field is wide, and as many if
it has room for the number. -/
theorem exists_spells_paddedDecimal (width n : Nat) :
    ∃ ds, Spells ds (paddedDecimal width n) ∧ ofDigits 10 ds = n ∧ ds ≠ [] ∧
      (0 < width → n < 10 ^ width → ds.length = width) := by
  have hspells : Spells ((paddedDecimal width n).map fun c => c.toNat - '0'.toNat)
      (paddedDecimal width n) := by
    rw [Spells, List.forall₂_map_left_iff, List.forall₂_same]
    exact fun c hc => digitValue?_of_isDigit (isDigit_of_mem_paddedDecimal hc)
  refine ⟨_, hspells, ?_, ?_, ?_⟩
  · rw [ofDigits, foldl_eq_ofDigitChars hspells, paddedDecimal, Nat.ofDigitChars_append,
      ofDigitChars_replicate_zero, Nat.ofDigitChars_toDigits (by decide) (by decide)]
  · simp [paddedDecimal, Nat.toDigits_ne_nil]
  · intro hpos hlt
    have hlength : (Nat.toDigits 10 n).length ≤ width :=
      (Nat.length_toDigits_le_iff (by decide) hpos).mpr hlt
    simp only [paddedDecimal, List.length_map, List.length_append, List.length_replicate]
    omega

/-- A number is read back from a field that has room for it. -/
theorem leadingNumber?_paddedDecimal {width n : Nat} (hpos : 0 < width) (hlt : n < 10 ^ width)
    (rest : List Char) : leadingNumber? width (paddedDecimal width n ++ rest) = some (n, rest) := by
  obtain ⟨ds, hspells, hvalue, hne, hwidth⟩ := exists_spells_paddedDecimal width n
  have hlength : ds.length = width := hwidth hpos hlt
  rw [leadingNumber?_append hspells hne (Nat.le_of_eq hlength) (.inl hlength), hvalue]

/-- A number is read back whatever its length if something else follows. -/
theorem leadingNumber?_paddedDecimal_of_afterDigits (width n : Nat) {rest : List Char}
    (hrest : AfterDigits rest) :
    leadingNumber? (paddedDecimal width n ++ rest).length (paddedDecimal width n ++ rest) =
      some (n, rest) := by
  obtain ⟨ds, hspells, hvalue, hne, -⟩ := exists_spells_paddedDecimal width n
  have hfits : ds.length ≤ (paddedDecimal width n ++ rest).length := by
    rw [List.Forall₂.length_eq hspells, List.length_append]
    exact Nat.le_add_right ..
  rw [leadingNumber?_append hspells hne hfits (.inr hrest), hvalue]

/-- A field begins with a digit. -/
theorem exists_paddedDecimal_eq_cons (width n : Nat) :
    ∃ c cs d, paddedDecimal width n = c :: cs ∧ digitValue? c = some d := by
  cases h : paddedDecimal width n with
  | nil => simp [paddedDecimal, Nat.toDigits_ne_nil] at h
  | cons c cs =>
      have hmem : c ∈ paddedDecimal width n := by simp [h]
      exact ⟨c, cs, _, rfl, digitValue?_of_isDigit (isDigit_of_mem_paddedDecimal hmem)⟩

end Emend
