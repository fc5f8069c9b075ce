import Emend.Text.Blank
import Emend.Text.CaseContext
import Emend.Text.CaseTable
import Emend.Text.WordChar
import Mathlib.Data.List.Chain
import Mathlib.Data.List.TakeWhile

/-!
# What the character tables say

The tables of letters, word characters and blanks are finite data, but what is needed of
them are laws about every code point.  Each law is reduced here to a check on pairs of
ranges: that no run of the lower-case table sends anything into another run that comes near
(`apart`), that the images of a run lie within one span of word characters, and that no span of
blanks meets one of the characters with another property (`Span.disjoint`).  The checks are
evaluated once (`characterTables`).

* `lookup_lower_settled` — a code point that was sent to its lower case stays there;
* `covers_lookup_lower` — the lower case of a word character is a word character;
* `isWordChar_of_isBlank` — a blank is no word character, and likewise has no case, is not looked
  through in search of a neighbouring letter and is its own lower case.
-/

namespace Emend

/-! ## Spans -/

/-- The walk stops at a span that holds the code point. -/
theorem Span.exists_of_covers {spans : List Span} {n : Nat} (h : covers spans n = true) :
    ∃ s ∈ spans, s.first ≤ n ∧ n ≤ s.last := by
  induction spans with
  | nil => cases h
  | cons s rest ih =>
      rw [covers] at h
      by_cases hn : n < s.first
      · rw [if_pos hn] at h
        cases h
      rw [if_neg hn] at h
      by_cases hs : n ≤ s.last
      · exact ⟨s, List.mem_cons_self, by omega, hs⟩
      · obtain ⟨r, hr, hle⟩ := ih (by simpa [hs] using h)
        exact ⟨r, List.mem_cons_of_mem _ hr, hle⟩

/-- No span of one list meets a span of the other. -/
def Span.disjoint (spans others : List Span) : Bool :=
  spans.all fun s => others.all fun t => Nat.blt s.last t.first || Nat.blt t.last s.first

/-- Of two spans that do not meet, one ends before the other. -/
theorem Span.lt_or_lt_of_disjoint {spans others : List Span} (h : disjoint spans others = true)
    {s t : Span} (hs : s ∈ spans) (ht : t ∈ others) : s.last < t.first ∨ t.last < s.first := by
  have hapart := List.all_eq_true.mp (List.all_eq_true.mp h s hs) t ht
  simpa only [Bool.or_eq_true, Nat.blt_eq] using hapart

/-- What some spans cover is not covered by spans that do not meet them. -/
theorem Span.covers_eq_false_of_disjoint {spans others : List Span}
    (h : disjoint spans others = true) {n : Nat} (hn : covers spans n = true) :
    covers others n = false := by
  by_contra hother
  obtain ⟨s, hs, hs1, hs2⟩ := exists_of_covers hn
  obtain ⟨t, ht, ht1, ht2⟩ := exists_of_covers (Bool.of_not_eq_false hother)
  have hapart := lt_or_lt_of_disjoint h hs ht
  omega

/-- Spans whose neighbours ascend are ascending. -/
theorem Span.ascending_of_chain {spans : List Span}
    (h : spans.IsChain (fun a b => a.first ≤ b.first)) : Ascending spans := by
  have : IsTrans Span (fun a b => a.first ≤ b.first) := ⟨fun _ _ _ => Nat.le_trans⟩
  exact List.isChain_iff_pairwise.mp h

/-! ## Runs -/

namespace CaseRun

/-- The image of the last code point of a run. -/
def lastImage (r : CaseRun) : Nat := r.image + (r.last - r.first)

/-- No image of the first run is moved by the second: their ranges do not overlap, or they
interleave, one on the even and one on the odd code points. -/
def apart (r q : CaseRun) : Bool :=
  Nat.blt r.lastImage q.first || (Nat.blt q.last r.image ||
    ((Nat.beq (r.step % 2) 0 || Nat.beq r.first r.last) &&
      (Nat.beq (q.step % 2) 0 && Nat.beq ((r.image + q.first) % 2) 1)))

/-- A table either leaves a code point alone or applies one of its runs. -/
theorem lookup_cases (runs : List CaseRun) (n : Nat) :
    lookup runs n = n ∨
      ∃ r ∈ runs, r.moves n = true ∧ lookup runs n = r.image + (n - r.first) := by
  induction runs with
  | nil => exact Or.inl rfl
  | cons r rest ih =>
      rw [lookup]
      by_cases hn : n < r.first
      · exact Or.inl (if_pos hn)
      rw [if_neg hn]
      by_cases hm : r.moves n = true
      · rw [if_pos hm]
        exact Or.inr ⟨r, List.mem_cons_self, hm, rfl⟩
      · rw [if_neg hm]
        rcases ih with h | ⟨q, hq, hmq, heq⟩
        · exact Or.inl h
        · exact Or.inr ⟨q, List.mem_cons_of_mem _ hq, hmq, heq⟩

/-- A code point that no run moves is left alone. -/
theorem lookup_eq_self {runs : List CaseRun} {n : Nat}
    (h : ∀ r ∈ runs, r.moves n = false) : lookup runs n = n := by
  rcases lookup_cases runs n with heq | ⟨r, hr, hm, -⟩
  · exact heq
  · rw [h r hr] at hm
    cases hm

/-- A run moves the code points of its range whose distance from its first is a multiple of its
step. -/
theorem moves_iff {r : CaseRun} {n : Nat} :
    r.moves n = true ↔ r.first ≤ n ∧ n ≤ r.last ∧ (n - r.first) % r.step = 0 := by
  simp [moves, and_assoc]

/-- The image of a code point under a run is not moved by a run that is apart from it. -/
theorem moves_image_of_apart {r q : CaseRun} {n : Nat} (hm : r.moves n = true)
    (hapart : r.apart q = true) : q.moves (r.image + (n - r.first)) = false := by
  obtain ⟨hfirst, hlast, hstep⟩ := moves_iff.mp hm
  by_contra hq
  obtain ⟨qfirst, qlast, qstep⟩ := moves_iff.mp (Bool.of_not_eq_false hq)
  simp only [apart, lastImage, Bool.or_eq_true, Bool.and_eq_true, Nat.blt_eq, Nat.beq_eq]
    at hapart
  rcases hapart with hbelow | habove | ⟨hr, heven, hodd⟩
  · omega
  · omega
  -- Both distances are even, so the two code points differ in parity.
  have hn : (n - r.first) % 2 = 0 := by
    rcases hr with hr | hr
    · exact Nat.mod_eq_zero_of_dvd
        (Nat.dvd_trans (Nat.dvd_of_mod_eq_zero hr) (Nat.dvd_of_mod_eq_zero hstep))
    · omega
  have hqn : (r.image + (n - r.first) - q.first) % 2 = 0 :=
    Nat.mod_eq_zero_of_dvd
      (Nat.dvd_trans (Nat.dvd_of_mod_eq_zero heven) (Nat.dvd_of_mod_eq_zero qstep))
  omega

/-- The runs that come near the images of a run: those between the ones that end before them and
the ones that start beyond them. -/
def near (r : CaseRun) (runs : List CaseRun) : List CaseRun :=
  (runs.dropWhile fun q => Nat.blt q.last r.image).takeWhile fun q => Nat.ble q.first r.lastImage

/-- Where the runs ascend, those that come after one beyond the images are beyond them too. -/
theorem apart_of_takeWhile {r q : CaseRun} {runs : List CaseRun}
    (hascending : runs.Pairwise fun p q => p.first ≤ q.first)
    (hreached : ∀ p ∈ runs.takeWhile fun p => Nat.ble p.first r.lastImage, r.apart p = true)
    (hq : q ∈ runs) : r.apart q = true := by
  induction runs with
  | nil => cases hq
  | cons p runs ih =>
      obtain ⟨hfirst, hrest⟩ := List.pairwise_cons.mp hascending
      by_cases hbeyond : p.first ≤ r.lastImage
      · rw [List.takeWhile_cons_of_pos (by simpa using hbeyond), List.forall_mem_cons] at hreached
        rcases List.mem_cons.mp hq with rfl | hq
        · exact hreached.1
        · exact ih hrest hreached.2 hq
      · have hle : p.first ≤ q.first := by
          rcases List.mem_cons.mp hq with rfl | hq
          · exact Nat.le_refl _
          · exact hfirst q hq
        have hlt : r.lastImage < q.first := by omega
        simp [apart, hlt]

/-- In a table, a run is apart from all others if it is from those that come near. -/
theorem apart_of_near {r q : CaseRun} {runs : List CaseRun}
    (hascending : runs.Pairwise fun p q => p.first ≤ q.first)
    (hnear : ∀ p ∈ r.near runs, r.apart p = true) (hq : q ∈ runs) : r.apart q = true := by
  rw [← List.takeWhile_append_dropWhile (p := fun p => Nat.blt p.last r.image) (l := runs)] at hq
  rcases List.mem_append.mp hq with hbefore | hlater
  · have hlt : q.last < r.image := by simpa using List.mem_takeWhile_imp hbefore
    simp [apart, hlt]
  · exact apart_of_takeWhile (hascending.sublist (List.dropWhile_sublist _)) hnear hlater

end CaseRun

/-- The code points that a run is about. -/
def CaseRun.source (r : CaseRun) : Span := ⟨r.first, r.last⟩

/-! ## The tables -/

/-- Tables of word characters, blanks and lower cases, with what is checked of them. -/
structure CheckedTables where
  words : List Span
  blanks : List Span
  runs : List CaseRun
  words_ascend : words.IsChain fun s t => s.first ≤ t.first
  runs_ascend : runs.IsChain fun r q => r.first ≤ q.first
  blank_not_word : Span.disjoint blanks words = true
  blank_not_cased : Span.disjoint blanks casedSpans = true
  blank_not_ignorable : Span.disjoint blanks caseIgnorableSpans = true
  blank_not_moved : Span.disjoint blanks (runs.map CaseRun.source) = true
  runs_apart : (runs.all fun r => (r.near runs).all (r.apart ·)) = true
  /-- The images of a run are word characters, are code points of characters, and are not the
  letter that is in no table. -/
  images : (runs.all fun r =>
    (words.any fun s => Nat.ble r.lastImage s.last && Nat.ble s.first r.image) &&
    ((Nat.blt r.lastImage 0xD800 ||
        (Nat.blt 0xDFFF r.image && Nat.blt r.lastImage 0x110000)) &&
      (Nat.blt r.lastImage 0x130 || Nat.blt 0x130 r.image))) = true
  images_beyond : (runs.all fun r => Nat.blt 0x5F r.image) = true

/-- The tables that are in use pass the checks. -/
def characterTables : CheckedTables where
  words := wordSpans
  blanks := blankSpans
  runs := lowerRuns
  words_ascend := by decide +kernel
  runs_ascend := by decide +kernel
  blank_not_word := by decide +kernel
  blank_not_cased := by decide +kernel
  blank_not_ignorable := by decide +kernel
  blank_not_moved := by decide +kernel
  runs_apart := by decide +kernel
  images := by decide +kernel
  images_beyond := by decide +kernel

/-! ## Blanks and word characters -/

/-- A code point in some span of word characters is found by the walk. -/
theorem covers_wordSpans {s : Span} {n : Nat} (hs : s ∈ wordSpans)
    (hfirst : s.first ≤ n) (hlast : n ≤ s.last) : Span.covers wordSpans n = true := by
  have hascending : Span.Ascending wordSpans := Span.ascending_of_chain characterTables.words_ascend
  rw [Span.covers_eq_any hascending, List.any_eq_true]
  exact ⟨s, hs, by simp [Span.contains, hfirst, hlast]⟩

/-- A blank is no word character. -/
theorem isWordChar_of_isBlank {c : Char} (h : isBlank c = true) : isWordChar c = false := by
  exact Span.covers_eq_false_of_disjoint characterTables.blank_not_word h

theorem isBlank_of_isWordChar {c : Char} (h : isWordChar c = true) : isBlank c = false := by
  by_contra hb
  rw [isWordChar_of_isBlank (Bool.of_not_eq_false hb)] at h
  cases h

theorem isCased_of_isBlank {c : Char} (h : isBlank c = true) : isCased c = false := by
  exact Span.covers_eq_false_of_disjoint characterTables.blank_not_cased h

/-- A blank is not looked through in search of a neighbouring letter. -/
theorem isCaseIgnorable_of_isBlank {c : Char} (h : isBlank c = true) : isCaseIgnorable c = false := by
  exact Span.covers_eq_false_of_disjoint characterTables.blank_not_ignorable h

/-! ## The lower-case table -/

/-- No run of the table moves what another has come to. -/
theorem lowerRuns_apart {r q : CaseRun} (hr : r ∈ lowerRuns) (hq : q ∈ lowerRuns) :
    r.apart q = true := by
  have : IsTrans CaseRun (fun p q => p.first ≤ q.first) := ⟨fun _ _ _ => Nat.le_trans⟩
  exact CaseRun.apart_of_near (List.isChain_iff_pairwise.mp characterTables.runs_ascend)
    (List.all_eq_true.mp (List.all_eq_true.mp characterTables.runs_apart r hr)) hq

/-- No run of the table moves a blank. -/
theorem lookup_lower_of_isBlank {c : Char} (h : isBlank c = true) :
    CaseRun.lookup lowerRuns c.toNat = c.toNat := by
  apply CaseRun.lookup_eq_self
  intro r hr
  by_contra hmoves
  obtain ⟨hfirst, hlast, -⟩ := CaseRun.moves_iff.mp (Bool.of_not_eq_false hmoves)
  obtain ⟨b, hb, hb1, hb2⟩ := Span.exists_of_covers h
  have hapart := Span.lt_or_lt_of_disjoint characterTables.blank_not_moved hb
    (List.mem_map_of_mem hr)
  simp only [CaseRun.source] at hapart
  omega

/-- What a run of the lower-case table makes of a code point it moves. -/
theorem lower_image_facts {r : CaseRun} {n : Nat} (hr : r ∈ lowerRuns) (hm : r.moves n = true) :
    Span.covers wordSpans (r.image + (n - r.first)) = true ∧
      (r.image + (n - r.first)).isValidChar ∧ r.image + (n - r.first) ≠ 0x130 := by
  obtain ⟨hfirst, hlast, -⟩ := CaseRun.moves_iff.mp hm
  have himages := List.all_eq_true.mp characterTables.images r hr
  simp only [Bool.and_eq_true, Bool.or_eq_true, List.any_eq_true, Nat.blt_eq, Nat.ble_eq,
    CaseRun.lastImage] at himages
  obtain ⟨⟨s, hs, hs1, hs2⟩, hvalid, hdot⟩ := himages
  refine ⟨covers_wordSpans hs (by omega) (by omega), ?_, by omega⟩
  unfold Nat.isValidChar
  omega

/-- **A lower case is its own lower case**, code point by code point. -/
theorem lookup_lower_settled (n : Nat) :
    CaseRun.lookup lowerRuns (CaseRun.lookup lowerRuns n) = CaseRun.lookup lowerRuns n := by
  rcases CaseRun.lookup_cases lowerRuns n with heq | ⟨r, hr, hm, heq⟩
  · rw [heq, heq]
  · rw [heq]
    apply CaseRun.lookup_eq_self
    intro q hq
    exact CaseRun.moves_image_of_apart hm (lowerRuns_apart hr hq)

/-- What the table moves, it moves beyond the underscore, which comes right before the small letters
of the ASCII range. -/
theorem lookup_lower_eq_or_lt (n : Nat) :
    CaseRun.lookup lowerRuns n = n ∨ 0x5F < CaseRun.lookup lowerRuns n := by
  rcases CaseRun.lookup_cases lowerRuns n with heq | ⟨r, hr, -, heq⟩
  · exact Or.inl heq
  · right
    have himage := List.all_eq_true.mp characterTables.images_beyond r hr
    rw [Nat.blt_eq] at himage
    omega

/-- The lower case of a word character is a word character. -/
theorem covers_lookup_lower {n : Nat} (h : Span.covers wordSpans n = true) :
    Span.covers wordSpans (CaseRun.lookup lowerRuns n) = true := by
  rcases CaseRun.lookup_cases lowerRuns n with heq | ⟨r, hr, hm, heq⟩
  · rw [heq]
    exact h
  · rw [heq]
    exact (lower_image_facts hr hm).1

end Emend
