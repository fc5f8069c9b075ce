/-!
# Spans of code points

A property of characters is given as data: a list of closed ranges of code points in
ascending order. Membership walks the list and stops at the first range that starts beyond
the code point, so a character of the ASCII range is decided within the first few ranges.

`covers_eq_any` says that stopping early loses nothing: on an ascending list the walk
finds exactly the code points that lie in some range.
-/

namespace Emend

/-- The code points from `first` to `last`, both included. -/
structure Span where
  first : Nat
  last : Nat
deriving Repr, DecidableEq

namespace Span

/-- Whether a code point lies in the range. -/
def contains (s : Span) (n : Nat) : Bool := s.first ≤ n && n ≤ s.last

/-- Whether a code point lies in one of the ranges of an ascending list. -/
def covers : List Span → Nat → Bool
  | [], _ => false
  | s :: rest, n => if n < s.first then false else n ≤ s.last || covers rest n

/-- In ascending order every range starts after those before it. -/
def Ascending (spans : List Span) : Prop := spans.Pairwise (fun a b => a.first ≤ b.first)

/-- Where the spans ascend, the walk that stops early finds what a search through all of them does.
-/
theorem covers_eq_any {spans : List Span} (h : Ascending spans) (n : Nat) :
    covers spans n = spans.any (·.contains n) := by
  induction spans with
  | nil => rfl
  | cons s rest ih =>
    have ⟨hs, hrest⟩ := List.pairwise_cons.1 h
    by_cases hn : n < s.first
    · have beyond : ∀ r ∈ rest, n < r.first := fun r hr => Nat.lt_of_lt_of_le hn (hs r hr)
      have none_contains : (s :: rest).any (·.contains n) = false := by
        simp only [List.any_eq_false, List.mem_cons, forall_eq_or_imp, contains]
        refine ⟨by simp; omega, fun r hr => ?_⟩
        have := beyond r hr
        simp; omega
      simp [covers, hn, none_contains]
    · have : s.first ≤ n := by omega
      simp [covers, hn, ih hrest, contains, this]

end Span

end Emend
