import Emend.Proofs.Text.Digits
import Emend.Proofs.Text.Words
import Emend.Timestamp

/-!
# Points in time are read back

The reader is forgiving, but what is written leaves it nothing to forgive: no field begins with a
blank, and each has either the digits that it is read by or a character behind it that is no digit.
So every field is read back on its own, the year with its sign and the decimals with the power of
ten that they lack, and there is no offset to be taken off (`read?_text`).  This holds of every point
in time that there is, the leap seconds and the years beyond four digits among them.
-/

namespace Emend

/-- A digit is no blank. -/
theorem isBlank_of_digitValue? {c : Char} {d : Nat} (h : digitValue? c = some d) :
    isBlank c = false := by
  obtain ⟨hlt, rfl⟩ := eq_hexDigit_of_digitValue? h
  have hall : ∀ d < 10, isBlank (hexDigit d) = false := by decide
  exact hall d hlt

theorem trimStart_cons {c : Char} (h : isBlank c = false) (cs : List Char) :
    trimStart (c :: cs) = c :: cs :=
  trimStart_eq_self (by simpa using h)

/-- There is no blank in front of a number. -/
theorem trimStart_paddedDecimal (width n : Nat) (rest : List Char) :
    trimStart (paddedDecimal width n ++ rest) = paddedDecimal width n ++ rest := by
  obtain ⟨c, cs, d, hcs, hd⟩ := exists_paddedDecimal_eq_cons width n
  rw [hcs, List.cons_append, trimStart_cons (isBlank_of_digitValue? hd)]

/-- The date of the numbers of a date is the date. -/
theorem Date.of?_self (d : Date) : Date.of? d.year d.month d.day = some d :=
  dif_pos ⟨d.year_mem, d.day_mem⟩

/-- The months have one or two digits, and so do the days. -/
theorem Date.lt_hundred (d : Date) : d.month < 100 ∧ d.day < 100 := by
  obtain ⟨hlow, hhigh⟩ := d.day_mem
  unfold daysInMonth at hhigh
  split at hhigh
  · split at hhigh <;> omega
  · split at hhigh
    · omega
    · split at hhigh <;> omega

namespace Timestamp

/-- A timestamp is made again from its parts. -/
theorem of?_self (t : Timestamp) : of? t.date t.hour t.minute t.second t.nano = some t :=
  dif_pos ⟨⟨t.hour_lt, t.minute_lt⟩, t.second_le, t.nano_lt⟩

/-- No minutes earlier is the same time. -/
theorem minutesEarlier?_zero (t : Timestamp) : t.minutesEarlier? 0 = some t := by
  have hhour := t.hour_lt
  have hminute := t.minute_lt
  have hlow : ¬ ((t.hour : Int) * 60 + t.minute - 0 < 0) := by omega
  have hhigh : ¬ (1440 ≤ (t.hour : Int) * 60 + t.minute - 0) := by omega
  have htotal : (((t.hour : Int) * 60 + t.minute - 0) % 1440).toNat = t.hour * 60 + t.minute := by
    omega
  have hquotient : (t.hour * 60 + t.minute) / 60 = t.hour := by omega
  have hremainder : (t.hour * 60 + t.minute) % 60 = t.minute := by omega
  simp only [minutesEarlier?, if_neg hlow, if_neg hhigh, htotal, hquotient, hremainder]
  exact of?_self t

/-! ## Fields -/

/-- A mark is read where it is due. -/
theorem afterMark?_cons {mark : Char} (h : isBlank mark = false) (rest : List Char) :
    afterMark? mark (mark :: rest) = some rest := by
  rw [afterMark?, trimStart_cons h]
  exact if_pos rfl

/-- A field of two digits is read back. -/
theorem readField?_paddedDecimal {n : Nat} (h : n < 100) (rest : List Char) :
    readField? (paddedDecimal 2 n ++ rest) = some (n, rest) := by
  rw [readField?, trimStart_paddedDecimal, leadingNumber?_paddedDecimal (by decide) h]

/-- A year is read back up to a character that is no digit, with or without a sign. -/
theorem readYear?_yearText (year : Int) {rest : List Char} (hrest : AfterDigits rest) :
    readYear? (yearText year ++ rest) = some (year, rest) := by
  have hminus : isBlank '-' = false := by decide
  have hplus : isBlank '+' = false := by decide
  by_cases hfour : 0 ≤ year ∧ year ≤ 9999
  · have hlt : year.toNat < 10 ^ 4 := by omega
    have hread := leadingNumber?_paddedDecimal (by decide) hlt rest
    have hyear : (year.toNat : Int) = year := Int.toNat_of_nonneg hfour.1
    rw [yearText, if_pos hfour, readYear?, trimStart_paddedDecimal]
    -- The first character is a digit, so it is neither of the signs.
    obtain ⟨c, cs, d, hcs, hd⟩ := exists_paddedDecimal_eq_cons 4 year.toNat
    have hnotMinus : c ≠ '-' := ne_of_value? hd (by decide)
    have hnotPlus : c ≠ '+' := ne_of_value? hd (by decide)
    rw [hcs, List.cons_append] at hread ⊢
    split
    · next heq => exact absurd (List.cons.inj heq).1 hnotMinus
    · next heq => exact absurd (List.cons.inj heq).1 hnotPlus
    · simp only [hread, Option.map_some, hyear]
  · rw [yearText, if_neg hfour, readYear?]
    have hread := leadingNumber?_paddedDecimal_of_afterDigits 4 year.natAbs hrest
    by_cases hnegative : year < 0
    · have hyear : -(year.natAbs : Int) = year := by omega
      rw [if_pos hnegative, List.cons_append, trimStart_cons hminus]
      simp only [hread, Option.map_some, hyear]
    · have hyear : (year.natAbs : Int) = year := by omega
      rw [if_neg hnegative, List.cons_append, trimStart_cons hplus]
      simp only [hread, Option.map_some, hyear]

/-- Decimals are read as nanoseconds, with the zeros that they lack. -/
theorem readFraction?_point {width n : Nat} (hpos : 0 < width) (hwidth : width ≤ 9)
    (hlt : n < 10 ^ width) :
    readFraction? ('.' :: paddedDecimal width n ++ ['Z']) = some (n * 10 ^ (9 - width), ['Z']) := by
  obtain ⟨ds, hspells, hvalue, hne, hlength⟩ := exists_spells_paddedDecimal width n
  have hds : ds.length = width := hlength hpos hlt
  have hfits : ds.length ≤ 9 := hds ▸ hwidth
  have hend : AfterDigits ['Z'] := afterDigits_cons (by decide)
  have hread := leadingDigits_append hspells hfits (.inr hend)
  rw [List.cons_append, readFraction?, hread]
  cases ds with
  | nil => exact absurd rfl hne
  | cons d ds => simp only [hvalue, hds]; rfl

/-- Nanoseconds are read back, and none where there are none. -/
theorem readFraction?_fractionText {nano : Nat} (h : nano < 1000000000) :
    readFraction? (fractionText nano ++ ['Z']) = some (nano, ['Z']) := by
  unfold fractionText
  split
  · next hzero => rw [hzero]; rfl
  · split
    · next hmillis =>
        rw [readFraction?_point (by decide) (by decide) (by omega)]
        have hexact : nano / 1000000 * 10 ^ (9 - 3) = nano := by omega
        rw [hexact]
    · split
      · next hmicros =>
          rw [readFraction?_point (by decide) (by decide) (by omega)]
          have hexact : nano / 1000 * 10 ^ (9 - 6) = nano := by omega
          rw [hexact]
      · rw [readFraction?_point (by decide) (by decide) h, Nat.sub_self, Nat.pow_zero, Nat.mul_one]

theorem readOffset?_universal : readOffset? (trimStart ['Z']) = some (0, []) := by decide

/-- A date is read back. -/
theorem readDate?_text (d : Date) (rest : List Char) :
    readDate? (yearText d.year ++ '-' :: (paddedDecimal 2 d.month ++
      '-' :: (paddedDecimal 2 d.day ++ rest))) = some (d, rest) := by
  have hminus : isBlank '-' = false := by decide
  have hafter : ∀ cs, AfterDigits ('-' :: cs) := fun cs => afterDigits_cons (by decide)
  obtain ⟨hmonth, hday⟩ := d.lt_hundred
  simp only [readDate?, readYear?_yearText d.year (hafter _), afterMark?_cons hminus,
    readField?_paddedDecimal hmonth, readField?_paddedDecimal hday, Date.of?_self,
    Option.bind_eq_bind, Option.bind_some]

/-- **Every point in time is read back.** -/
theorem read?_text (t : Timestamp) : read? t.text = some t := by
  have hcolon : isBlank ':' = false := by decide
  have hhour : t.hour < 100 := Nat.lt_trans t.hour_lt (by decide)
  have hminute : t.minute < 100 := Nat.lt_trans t.minute_lt (by decide)
  have hsecond : t.second < 100 := Nat.lt_of_le_of_lt t.second_le (by decide)
  have hseparator : ∀ cs, afterSeparator? ('T' :: cs) = some cs := fun _ => rfl
  simp only [read?, text, String.toList_ofList, List.append_assoc, List.cons_append,
    readDate?_text, hseparator, readField?_paddedDecimal hhour, readField?_paddedDecimal hminute,
    readField?_paddedDecimal hsecond, afterMark?_cons hcolon,
    readFraction?_fractionText t.nano_lt, readOffset?_universal, of?_self,
    minutesEarlier?_zero, Option.bind_eq_bind, Option.bind_some, List.all_nil, if_true]

end Timestamp

end Emend
