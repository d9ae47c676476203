import Mathlib.Order.Bounds.Basic
import TraitDoc.Proofs.SourceGrammar
/-!
# The search from an offset

A search for a comment begins at an offset that may be negative, and then counts
from the end of the text. Offset or not, the search tries one opener only: the
least one from there. Where that one is not closed it finds nothing, although
other openers may follow.

Nothing is missed by that. The search asks for a closer behind its opener, and
what is behind a later opener is behind the least one too. So one opener that is
closed, wherever it stands, is enough for the least one to be closed, if not by
the same closer.

What an offset does take away is what stands before it. Markers overlap: in
`/**/**/` the first closer shares a star with the first opener and a slash with
the second one. From the beginning this is one comment, and one offset further
on it is none, since the opener found there begins within the comment and no
closer is left behind it.

## Main definitions

* `DocComment.CommentedFrom` — the text holds a closed opener from an offset on.
* `DocComment.IsFirstFrom` — the first comment from an offset on.

## Main statements

* `DocComment.isFirstFrom_shift_iff` — the first comment of a rest is the first
  one from where the rest begins, moved.
* `DocComment.firstFrom_exact` — the search from an offset is exact.
-/

namespace TraitDoc

/-- The least number of a kind from `n + m` on is the least one from `m` on, counted from `n`. -/
theorem isLeast_add_iff {P : Nat → Prop} {n m i : Nat} :
    IsLeast {k | n + m ≤ k ∧ P k} (n + i) ↔ IsLeast {k | m ≤ k ∧ P (n + k)} i := by
  constructor
  · intro h
    obtain ⟨⟨hi, hP⟩, hmin⟩ := h
    refine ⟨⟨Nat.le_of_add_le_add_left hi, hP⟩, ?_⟩
    intro k hk
    exact Nat.le_of_add_le_add_left (hmin ⟨Nat.add_le_add_left hk.1 n, hk.2⟩)
  · intro h
    obtain ⟨⟨hi, hP⟩, hmin⟩ := h
    refine ⟨⟨Nat.add_le_add_left hi n, hP⟩, ?_⟩
    intro k hk
    obtain ⟨d, rfl⟩ := Nat.exists_eq_add_of_le (Nat.le_of_add_right_le hk.1)
    exact Nat.add_le_add_left (hmin ⟨Nat.le_of_add_le_add_left hk.1, hk.2⟩) n

namespace DocComment

/-! ## The offset -/

/-- A negative offset counts from the end of the text, and no offset lies before its beginning. -/
theorem offsetOf_eq_max (s : Text) (start : Int) :
    (offsetOf s start : Int) = max 0 (if start < 0 then s.length + start else start) := by
  unfold offsetOf
  split <;> omega

/-! ## The first comment from an offset -/

/-- The text holds an opener from offset `n` on, with a closer behind it. -/
def CommentedFrom (n : Nat) (s : Text) : Prop :=
  ∃ i k, n ≤ i ∧ i + 3 ≤ k ∧ opener <+: s.drop i ∧ closer <+: s.drop k

/-- The least opener from offset `n` on, through the least closer behind it. -/
structure IsFirstFrom (n : Nat) (s : Text) (p : Span) : Prop where
  opener_least : IsLeast {i | n ≤ i ∧ opener <+: s.drop i} p.start
  closer_least : ∃ k, p.stop = k + 2 ∧
    IsLeast {k | p.start + 3 ≤ k ∧ closer <+: s.drop k} k

theorem commented_drop_iff {n : Nat} {s : Text} :
    Commented (s.drop n) ↔ CommentedFrom n s := by
  constructor
  · intro h
    obtain ⟨i, k, hik, hopen, hclose⟩ := h
    rw [List.drop_drop] at hopen hclose
    exact ⟨n + i, n + k, Nat.le_add_right n i, by omega, hopen, hclose⟩
  · intro h
    obtain ⟨i, k, hi, hik, hopen, hclose⟩ := h
    refine ⟨i - n, k - n, by omega, ?_, ?_⟩
    · rw [List.drop_drop, Nat.add_sub_cancel' hi]
      exact hopen
    · rw [List.drop_drop, Nat.add_sub_cancel' (by omega)]
      exact hclose

/-- The first comment is the first one from the beginning on. -/
theorem isFirst_iff_isFirstFrom {s : Text} {p : Span} : IsFirst s p ↔ IsFirstFrom 0 s p := by
  constructor
  · intro h
    have hroom := h.room
    refine ⟨⟨⟨Nat.zero_le _, h.opener_at⟩, ?_⟩, p.stop - 2, by omega,
      ⟨by omega, h.closer_at⟩, ?_⟩
    · intro i hi
      exact Nat.le_of_not_lt fun hlt => h.no_opener i hlt hi.2
    · intro k hk
      exact Nat.le_of_not_lt fun hlt => h.no_closer k hk.1 (by omega) hk.2
  · intro h
    obtain ⟨⟨⟨-, hopen⟩, hopenMin⟩, k, hstop, ⟨hk, hclose⟩, hcloseMin⟩ := h
    have hend : p.stop - 2 = k := by omega
    refine ⟨hopen, by omega, by rw [hend]; exact hclose, ?_, ?_⟩
    · intro i hi hopener
      exact Nat.not_lt.2 (hopenMin ⟨Nat.zero_le i, hopener⟩) hi
    · intro j hlo hhi hcloser
      have hle : k ≤ j := hcloseMin ⟨hlo, hcloser⟩
      omega

/-- The first comment of a rest is the first one from where the rest begins, moved. -/
theorem isFirstFrom_shift_iff {n m : Nat} {s : Text} {p : Span} :
    IsFirstFrom (n + m) s (p.shift n) ↔ IsFirstFrom m (s.drop n) p := by
  have hopen : IsLeast {i | n + m ≤ i ∧ opener <+: s.drop i} (n + p.start) ↔
      IsLeast {i | m ≤ i ∧ opener <+: (s.drop n).drop i} p.start := by
    simp only [List.drop_drop]
    exact isLeast_add_iff
  have hclose (k : Nat) : IsLeast {k | n + p.start + 3 ≤ k ∧ closer <+: s.drop k} (n + k) ↔
      IsLeast {k | p.start + 3 ≤ k ∧ closer <+: (s.drop n).drop k} k := by
    simp only [List.drop_drop, Nat.add_assoc]
    exact isLeast_add_iff
  constructor
  · intro h
    obtain ⟨k, hstop, hk⟩ := h.closer_least
    -- the closer stands behind the opener, so it stands behind `n` too
    obtain ⟨d, rfl⟩ : ∃ d, k = n + d := by
      have hbehind : n + p.start + 3 ≤ k := hk.1.1
      exact Nat.exists_eq_add_of_le (by omega)
    have hstop : n + p.stop = n + d + 2 := hstop
    exact ⟨hopen.1 h.opener_least, d, by omega, (hclose d).1 hk⟩
  · intro h
    obtain ⟨k, hstop, hk⟩ := h.closer_least
    have hstop : n + p.stop = n + k + 2 := by omega
    exact ⟨hopen.2 h.opener_least, n + k, hstop, (hclose k).2 hk⟩

/-- A comment from an offset on is one of the rest, moved. -/
theorem IsFirstFrom.exists_shift {n : Nat} {s : Text} {p : Span} (h : IsFirstFrom n s p) :
    ∃ q : Span, p = q.shift n := by
  obtain ⟨k, hstop, hk⟩ := h.closer_least
  have hstart : n ≤ p.start := h.opener_least.1.1
  have hbehind : p.start + 3 ≤ k := hk.1.1
  refine ⟨⟨p.start - n, p.stop - n⟩, ?_⟩
  rw [Span.shift, Nat.add_sub_cancel' hstart, Nat.add_sub_cancel' (by omega)]

/-! ## The search -/

theorem firstFrom?_eq_none_iff {start : Int} {s : Text} :
    firstFrom? start s = none ↔ ¬ CommentedFrom (offsetOf s start) s := by
  rw [firstFrom?, Option.map_eq_none_iff, first?_eq_none_iff, commented_drop_iff]

theorem firstFrom?_eq_some_iff {start : Int} {s : Text} {p : Span} :
    firstFrom? start s = some p ↔ IsFirstFrom (offsetOf s start) s p := by
  have hrest (q : Span) : first? (s.drop (offsetOf s start)) = some q ↔
      IsFirstFrom (offsetOf s start) s (q.shift (offsetOf s start)) := by
    rw [first?_eq_some_iff_isFirst, isFirst_iff_isFirstFrom]
    exact isFirstFrom_shift_iff.symm
  rw [firstFrom?, Option.map_eq_some_iff]
  constructor
  · intro h
    obtain ⟨q, hq, rfl⟩ := h
    exact (hrest q).1 hq
  · intro h
    obtain ⟨q, rfl⟩ := h.exists_shift
    exact ⟨q, (hrest q).2 h, rfl⟩

/--
**The search for a comment from an offset is exact. It fails exactly if no opener
from there on has a closer behind it. Otherwise it answers with the least opener
from there on, through the least closer behind that. And it is the search of the
rest that begins at the offset, moved by the offset.**
-/
theorem firstFrom_exact (start : Int) (s : Text) :
    (offsetOf s start : Int) = max 0 (if start < 0 then s.length + start else start) ∧
    (firstFrom? start s = none ↔ ¬ CommentedFrom (offsetOf s start) s) ∧
    (∀ p, firstFrom? start s = some p ↔ IsFirstFrom (offsetOf s start) s p) ∧
    ∀ n : Nat, firstFrom? n s = (firstFrom? 0 (s.drop n)).map fun p => p.shift n := by
  refine ⟨offsetOf_eq_max s start, firstFrom?_eq_none_iff, fun _ => firstFrom?_eq_some_iff,
    fun n => ?_⟩
  rw [firstFrom?_natCast, firstFrom?_zero]

-- Counted from the end, six offsets reach back to within the first opener.
example : firstFrom? 0 "/**/**/".toList = some ⟨0, 7⟩ ∧
    firstFrom? (-6) "/**/**/".toList = none := by
  decide

end DocComment

end TraitDoc
