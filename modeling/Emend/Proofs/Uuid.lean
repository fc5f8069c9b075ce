import Emend.Proofs.Text.Digits
import Emend.Uuid

/-!
# Identifiers are read back

An identifier is written in groups.  Taking the hyphens out of the groups gives the digits, which
have none of their own, so the grouped form is recognised; and as it has hyphens it is no row of
digits, which is tried first.
-/

namespace Emend

namespace Uuid

/-- A hyphen is no digit, so grouped digits are not taken for plain ones. -/
theorem hexValue?_hyphen : hexValue? '-' = none := by decide

/-- Characters that are no hyphens are what is left of their groups. -/
theorem filter_group {cs : List Char} (h : ∀ c ∈ cs, c ≠ '-') :
    (group cs).filter (· ≠ '-') = cs := by
  have hkeep : ∀ part : List Char, part ⊆ cs → part.filter (· ≠ '-') = part := by
    intro part hpart
    exact List.filter_eq_self.mpr fun c hc => decide_eq_true (h c (hpart hc))
  have htake : ∀ i, ((cs.drop i).take 4).filter (· ≠ '-') = (cs.drop i).take 4 := fun i =>
    hkeep _ fun c hc => List.mem_of_mem_drop (List.mem_of_mem_take hc)
  have hdrop : ∀ i, (cs.drop i).take 4 ++ cs.drop (i + 4) = cs.drop i := by
    intro i
    rw [← List.drop_drop, List.take_append_drop]
  have hhyphen : ∀ rest : List Char, ('-' :: rest).filter (· ≠ '-') = rest.filter (· ≠ '-') :=
    fun rest => rfl
  simp only [group, List.filter_append, hhyphen, htake]
  rw [hkeep _ (List.take_subset 8 cs), hkeep _ (List.drop_subset 20 cs), List.append_assoc,
    List.append_assoc, List.append_assoc, hdrop 16, hdrop 12, hdrop 8, List.take_append_drop]

/-- The digits are read back without hyphens. -/
theorem ofPlain?_map_hexDigit (u : Uuid) : ofPlain? (u.digits.map hexDigit) = some u := by
  rw [ofPlain?, allDigits?_map_hexDigit u.digits_lt]
  exact dif_pos ⟨u.length_digits, u.digits_lt⟩

/-- The digits are read back in their groups. -/
theorem ofGrouped?_group (u : Uuid) : ofGrouped? (group (u.digits.map hexDigit)) = some u := by
  have hplain : ∀ c ∈ u.digits.map hexDigit, c ≠ '-' := by
    intro c hc
    obtain ⟨d, hd, rfl⟩ := List.mem_map.mp hc
    exact ne_of_value? (hexValue?_hexDigit (u.digits_lt d hd)) hexValue?_hyphen
  rw [ofGrouped?, filter_group hplain]
  exact (if_pos rfl).trans (ofPlain?_map_hexDigit u)

theorem ofPlain?_group (cs : List Char) : ofPlain? (group cs) = none := by
  have hmem : '-' ∈ group cs := by simp [group]
  rw [ofPlain?, allDigits?_eq_none hmem hexValue?_hyphen]
  rfl

/-- **Every identifier is read back.** -/
theorem read?_text (u : Uuid) : read? u.text = some u := by
  rw [read?, text, String.toList_ofList]
  simp only [ofPlain?_group, ofGrouped?_group]
  rfl

end Uuid

end Emend
