import TraitDoc.Plumbing.AroundComments
/-!
# Where comments stand

All comments of a text come from one search that is taken up again at the end of
the comment found last. The search looks at the rest of the text only, so the
comments behind a comment are those of the rest, moved by where the rest begins.
That gives an induction over the comments of a text, and with it everything here
follows from facts about the *first* comment.

Two of these facts carry the later modules. A comment ends in a slash, so no
comment ends in a stretch without one. And a comment is found by looking no
further than its end, so a text that is cut off has exactly those comments that
end before the cut: what the cut leaves of another comment is an opener without
a closer, behind which nothing is found.

## Main definitions

* `DocComment.lastStop` — where the last of some comments ends.
* `Plumbing.cleanedThrough` — the cleaned text through the last of some comments.

## Main statements

* `DocComment.spans_of_some` — the comments behind the first one.
* `DocComment.stop_le_of_mem_spans` — no comment ends in a stretch without slash.
* `DocComment.spans_take` — the comments of a text that is cut off.
* `Plumbing.stripAroundComments_eq` — the cleaned text, comment by comment.
-/

namespace TraitDoc

/-! ## Stretches that are moved -/

theorem Span.shift_zero (p : Span) : p.shift 0 = p := by
  simp [Span.shift]

theorem Span.shift_shift (p : Span) (a b : Nat) : (p.shift a).shift b = p.shift (b + a) := by
  simp [Span.shift, Nat.add_assoc]

theorem Text.slice_shift (s : Text) (p : Span) (offset : Nat) :
    s.slice (p.shift offset) = Text.slice (s.drop offset) p := by
  simp [Text.slice, Span.shift, Nat.add_sub_add_left]

theorem Text.slice_take {s : Text} {p : Span} {n : Nat} (h : p.stop ≤ n) :
    Text.slice (s.take n) p = s.slice p := by
  rw [Text.slice, Text.slice, List.drop_take, List.take_take,
    Nat.min_eq_left (Nat.sub_le_sub_right h _)]

namespace DocComment

theorem firstFrom?_zero (s : Text) : firstFrom? 0 s = first? s := by
  simp [firstFrom?, offsetOf, Span.shift_zero]

/-! ## Comment by comment -/

/-- Texts by their comments: a text without comment, or a text with a rest behind its first comment. -/
theorem comment_induction {P : Text → Prop} (none : ∀ s, first? s = none → P s)
    (some : ∀ s p, first? s = some p → P (s.drop p.stop) → P s) (s : Text) : P s := by
  cases h : first? s with
  | none => exact none s h
  | some p =>
    have hbounds := first?_bounds h
    have hshort : (s.drop p.stop).length < s.length := by
      rw [List.length_drop]
      omega
    exact some s p h (comment_induction none some (s.drop p.stop))
termination_by s.length

theorem spansFrom_eq_map (start : Nat) (s : Text) :
    spansFrom start s = (spans (s.drop start)).map fun p => p.shift start := by
  suffices h : ∀ u, ∀ s start, s.drop start = u →
      spansFrom start s = (spans u).map fun p => p.shift start by
    exact h (s.drop start) s start rfl
  intro u
  induction u using comment_induction with
  | none u hu =>
    intro s start hs
    have hfrom : firstFrom? start s = none := by
      rw [firstFrom?_natCast, hs, hu]
      rfl
    have hzero : firstFrom? (0 : Nat) u = none := (firstFrom?_zero u).trans hu
    rw [spansFrom_of_none hfrom, spans, spansFrom_of_none hzero]
    rfl
  | some u p hu ih =>
    intro s start hs
    have hfrom : firstFrom? start s = some (p.shift start) := by
      rw [firstFrom?_natCast, hs, hu]
      rfl
    have hzero : firstFrom? (0 : Nat) u = some p := (firstFrom?_zero u).trans hu
    have hrest : s.drop (p.shift start).stop = u.drop p.stop := by
      rw [Span.shift, ← List.drop_drop, hs]
    rw [spansFrom_of_some hfrom, spans, spansFrom_of_some hzero, ih s _ hrest, ih u _ rfl,
      List.map_cons, List.map_map]
    refine congrArg (_ :: ·) (List.map_congr_left fun q _ => ?_)
    exact (Span.shift_shift q p.stop start).symm

theorem spans_of_none {s : Text} (h : first? s = none) : spans s = [] := by
  have hzero : firstFrom? (0 : Nat) s = none := (firstFrom?_zero s).trans h
  rw [spans, spansFrom_of_none hzero]

/-- The comments behind the first one are those of the rest. -/
theorem spans_of_some {s : Text} {p : Span} (h : first? s = some p) :
    spans s = p :: (spans (s.drop p.stop)).map fun q => q.shift p.stop := by
  have hzero : firstFrom? (0 : Nat) s = some p := (firstFrom?_zero s).trans h
  rw [spans, spansFrom_of_some hzero, spansFrom_eq_map]

/-- Every comment is the first one from some offset on. -/
theorem exists_first?_of_mem_spans {s : Text} {p : Span} (h : p ∈ spans s) :
    ∃ offset q, first? (s.drop offset) = some q ∧ p = q.shift offset := by
  induction s using comment_induction generalizing p with
  | none s hs =>
    rw [spans_of_none hs] at h
    cases h
  | some s first hs ih =>
    rw [spans_of_some hs, List.mem_cons, List.mem_map] at h
    rcases h with h | ⟨q, hq, h⟩
    · exact ⟨0, first, hs, by rw [h, Span.shift_zero]⟩
    · obtain ⟨offset, r, hr, hqr⟩ := ih hq
      refine ⟨first.stop + offset, r, ?_, ?_⟩
      · rw [← List.drop_drop]
        exact hr
      · rw [← h, hqr, Span.shift_shift]

/-! ## The end of a comment -/

theorem closer_of_first? {s : Text} {p : Span} (h : first? s = some p) :
    closer <+: s.drop (p.stop - 2) := by
  obtain ⟨gap, -, hgap, hstop⟩ := first?_eq_some_iff.1 h
  have hclose := (Text.indexOf?_eq_some_iff.1 hgap).2.1
  rw [List.drop_drop] at hclose
  have hoffset : p.stop - 2 = p.start + 3 + gap := by omega
  rw [hoffset]
  exact hclose

/-- A comment has at least five characters, lies inside the text and ends in the closer. -/
theorem mem_spans_closer {s : Text} {p : Span} (h : p ∈ spans s) :
    p.start + 5 ≤ p.stop ∧ p.stop ≤ s.length ∧ closer <+: s.drop (p.stop - 2) := by
  obtain ⟨offset, q, hq, rfl⟩ := exists_first?_of_mem_spans h
  have hbounds := first?_bounds hq
  have hclose := closer_of_first? hq
  rw [List.length_drop] at hbounds
  rw [List.drop_drop] at hclose
  have hoffset : offset + q.stop - 2 = offset + (q.stop - 2) := by omega
  simp only [Span.shift]
  rw [hoffset]
  refine ⟨by omega, by omega, hclose⟩

/-- No comment ends in a stretch without slash. -/
theorem stop_le_of_mem_spans {front tail : Text} (htail : '/' ∉ tail) {p : Span}
    (h : p ∈ spans (front ++ tail)) : p.stop ≤ front.length := by
  obtain ⟨hlen, -, hclose⟩ := mem_spans_closer h
  by_cases hle : p.stop ≤ front.length
  · exact hle
  · -- otherwise the slash of the closer stands in the tail
    obtain ⟨rest, hrest⟩ := hclose
    have hslash : (front ++ tail)[p.stop - 1]? = some '/' := by
      have hget : ((front ++ tail).drop (p.stop - 2))[1]? = some '/' := by
        rw [← hrest]
        rfl
      rw [List.getElem?_drop] at hget
      have hindex : p.stop - 2 + 1 = p.stop - 1 := by omega
      rw [hindex] at hget
      exact hget
    rw [List.getElem?_append_right (by omega)] at hslash
    exact absurd (List.mem_of_getElem? hslash) htail

theorem getLast?_slice {s : Text} {p : Span} (h : p ∈ spans s) :
    (s.slice p).getLast? = some '/' := by
  obtain ⟨hlen, hstop, rest, hrest⟩ := mem_spans_closer h
  have hslice : (s.slice p).length = p.stop - p.start := by
    rw [Text.slice, List.length_take, List.length_drop]
    omega
  have hlast : p.start + (p.stop - p.start - 1) = p.stop - 2 + 1 := by omega
  rw [List.getLast?_eq_getElem?, hslice, Text.slice, List.getElem?_take_of_lt (by omega),
    List.getElem?_drop, hlast, ← List.getElem?_drop, ← hrest]
  rfl

/-! ## A text that is cut off -/

/-- A word is found before a cut if it ends there, and what is found later is not found at all. -/
theorem indexOf?_take {word : Text} (hword : word ≠ []) (s : Text) (n : Nat) :
    Text.indexOf? word (s.take n) =
      (Text.indexOf? word s).filter fun i => decide (i + word.length ≤ n) := by
  have hpos : 0 < word.length := List.length_pos_iff.2 hword
  have hpre : ∀ i, word <+: (s.take n).drop i ↔ word <+: s.drop i ∧ i + word.length ≤ n := by
    intro i
    rw [List.drop_take, List.prefix_take_iff]
    constructor
    · intro h
      exact ⟨h.1, by omega⟩
    · intro h
      exact ⟨h.1, by omega⟩
  refine Option.ext fun i => ?_
  rw [Text.indexOf?_eq_some_iff, Option.filter_eq_some_iff, Text.indexOf?_eq_some_iff, hpre,
    decide_eq_true_eq]
  constructor
  · intro h
    obtain ⟨hi, ⟨hw, hfit⟩, hmin⟩ := h
    refine ⟨⟨?_, hw, fun j hj hj' => ?_⟩, hfit⟩
    · rw [List.length_take] at hi
      omega
    · exact hmin j hj ((hpre j).2 ⟨hj', by omega⟩)
  · intro h
    obtain ⟨⟨hi, hw, hmin⟩, hfit⟩ := h
    refine ⟨?_, ⟨hw, hfit⟩, fun j hj hj' => ?_⟩
    · rw [List.length_take]
      omega
    · exact hmin j hj ((hpre j).1 hj').1

theorem first?_take (s : Text) (n : Nat) :
    first? (s.take n) = (first? s).filter fun p => decide (p.stop ≤ n) := by
  have hopen : opener ≠ [] := by decide
  have hclose : closer ≠ [] := by decide
  refine Option.ext fun p => ?_
  rw [first?_eq_some_iff, Option.filter_eq_some_iff, first?_eq_some_iff, List.drop_take]
  simp only [indexOf?_take hopen, indexOf?_take hclose, Option.filter_eq_some_iff,
    decide_eq_true_eq]
  have hopenLen : opener.length = 3 := rfl
  have hcloseLen : closer.length = 2 := rfl
  constructor
  · intro h
    obtain ⟨gap, ⟨hstart, -⟩, ⟨hgap, hfit⟩, hstop⟩ := h
    exact ⟨⟨gap, hstart, hgap, hstop⟩, by omega⟩
  · intro h
    obtain ⟨⟨gap, hstart, hgap, hstop⟩, hfit⟩ := h
    exact ⟨gap, ⟨hstart, by omega⟩, ⟨hgap, by omega⟩, hstop⟩

/-- A text that is cut off has the comments that end before the cut. -/
theorem spans_take (s : Text) (n : Nat) :
    spans (s.take n) = (spans s).filter fun p => decide (p.stop ≤ n) := by
  induction s using comment_induction generalizing n with
  | none s hs =>
    have htake : first? (s.take n) = none := by
      rw [first?_take, hs]
      rfl
    rw [spans_of_none hs, spans_of_none htake]
    rfl
  | some s p hs ih =>
    rw [spans_of_some hs, List.filter_cons, List.filter_map]
    by_cases hp : p.stop ≤ n
    · have htake : first? (s.take n) = some p := by
        rw [first?_take, hs, Option.filter_some, if_pos (decide_eq_true hp)]
      rw [spans_of_some htake, if_pos (decide_eq_true hp), List.drop_take, ih]
      refine congrArg (fun l => p :: List.map _ l) (List.filter_congr fun q _ => ?_)
      simp only [Function.comp_apply, Span.shift, decide_eq_decide]
      omega
    · have htake : first? (s.take n) = none := by
        rw [first?_take, hs, Option.filter_some, if_neg (by simpa using hp)]
      -- the comments behind `p` end later than `p` does
      have hlater : (spans (s.drop p.stop)).filter
          ((fun q => decide (q.stop ≤ n)) ∘ fun q => q.shift p.stop) = [] := by
        rw [List.filter_eq_nil_iff]
        intro q _ hq
        have hq : p.stop + q.stop ≤ n := by simpa [Span.shift] using hq
        omega
      rw [spans_of_none htake, if_neg (by simpa using hp), hlater]
      rfl

/-! ## Behind the last comment -/

/-- Where the last of some comments ends, or `start` where there is none. -/
def lastStop (start : Nat) : List Span → Nat
  | [] => start
  | p :: rest => lastStop p.stop rest

theorem lastStop_shift (offset start : Nat) (ps : List Span) :
    lastStop (offset + start) (ps.map fun p => p.shift offset) = offset + lastStop start ps := by
  induction ps generalizing start with
  | nil => rfl
  | cons p ps ih => exact ih p.stop

theorem lastStop_le {start n : Nat} {ps : List Span} (hstart : start ≤ n)
    (h : ∀ p ∈ ps, p.stop ≤ n) : lastStop start ps ≤ n := by
  induction ps generalizing start with
  | nil => exact hstart
  | cons p ps ih => exact ih (h p (by simp)) fun q hq => h q (by simp [hq])

/-- The code behind the last comment of a text. -/
def codeBehind (s : Text) : Text := s.drop (lastStop 0 (spans s))

theorem codeBehind_of_none {s : Text} (h : first? s = none) : codeBehind s = s := by
  rw [codeBehind, spans_of_none h]
  rfl

theorem codeBehind_of_some {s : Text} {p : Span} (h : first? s = some p) :
    codeBehind s = codeBehind (s.drop p.stop) := by
  have hlast : lastStop 0 (spans s) = p.stop + lastStop 0 (spans (s.drop p.stop)) := by
    rw [spans_of_some h]
    exact lastStop_shift p.stop 0 _
  rw [codeBehind, codeBehind, hlast, List.drop_drop]

/-- What stands behind the last slash stands behind the last comment. -/
theorem codeBehind_append {front tail : Text} (h : '/' ∉ tail) :
    ∃ code, codeBehind (front ++ tail) = code ++ tail := by
  have hle : lastStop 0 (spans (front ++ tail)) ≤ front.length :=
    lastStop_le (Nat.zero_le _) fun p hp => stop_le_of_mem_spans h hp
  exact ⟨_, List.drop_append_of_le_length hle⟩

end DocComment

namespace Plumbing

open DocComment

/-- The cleaned text through the last of some comments: the stripped code before each, and the comment. -/
def cleanedThrough (s : Text) (start : Nat) : List Span → Text
  | [] => []
  | p :: rest => strip (s.slice ⟨start, p.start⟩) ++ s.slice p ++ cleanedThrough s p.stop rest

theorem cleanedThrough_shift (s : Text) (offset start : Nat) (ps : List Span) :
    cleanedThrough s (offset + start) (ps.map fun p => p.shift offset) =
      cleanedThrough (s.drop offset) start ps := by
  induction ps generalizing start with
  | nil => rfl
  | cons p ps ih =>
    have hcode : s.slice ⟨offset + start, offset + p.start⟩ =
        Text.slice (s.drop offset) ⟨start, p.start⟩ := Text.slice_shift s ⟨start, p.start⟩ offset
    show strip (s.slice ⟨offset + start, offset + p.start⟩) ++ s.slice (p.shift offset) ++
      cleanedThrough s (offset + p.stop) (ps.map fun q => q.shift offset) = _
    rw [hcode, Text.slice_shift, ih]
    rfl

theorem cleanedThrough_take {s : Text} {n start : Nat} {ps : List Span}
    (h : ∀ p ∈ ps, p.start ≤ p.stop ∧ p.stop ≤ n) :
    cleanedThrough (s.take n) start ps = cleanedThrough s start ps := by
  induction ps generalizing start with
  | nil => rfl
  | cons p ps ih =>
    have hp := h p (by simp)
    have hcode : Text.slice (s.take n) ⟨start, p.start⟩ = s.slice ⟨start, p.start⟩ :=
      Text.slice_take (Nat.le_trans hp.1 hp.2)
    have hcomment : Text.slice (s.take n) p = s.slice p := Text.slice_take hp.2
    have hrest : cleanedThrough (s.take n) p.stop ps = cleanedThrough s p.stop ps :=
      ih fun q hq => h q (by simp [hq])
    rw [cleanedThrough, hcode, hcomment, hrest]
    rfl

/-- The cleaned text, comment by comment. -/
theorem stripAroundComments_eq (s : Text) :
    stripAroundComments s = cleanedThrough s 0 (spans s) ++ strip (codeBehind s) := by
  induction s using comment_induction with
  | none s hs =>
    rw [stripAroundComments_of_none hs, codeBehind_of_none hs, spans_of_none hs]
    rfl
  | some s p hs ih =>
    have hslice : s.slice ⟨0, p.start⟩ = s.take p.start := by
      simp [Text.slice]
    have hthrough : cleanedThrough s 0 (spans s) = strip (s.take p.start) ++ s.slice p ++
        cleanedThrough (s.drop p.stop) 0 (spans (s.drop p.stop)) := by
      rw [spans_of_some hs, cleanedThrough, hslice]
      exact congrArg (_ ++ ·) (cleanedThrough_shift s p.stop 0 _)
    rw [stripAroundComments_of_some hs, ih, hthrough, codeBehind_of_some hs,
      List.append_assoc (strip (s.take p.start) ++ s.slice p)]

/-- The cleaned text through the last comment ends in the slash of that comment. -/
theorem getLast?_cleanedThrough {s : Text} {start : Nat} {ps : List Span} (hne : ps ≠ [])
    (h : ∀ p ∈ ps, (s.slice p).getLast? = some '/') :
    (cleanedThrough s start ps).getLast? = some '/' := by
  induction ps generalizing start with
  | nil => exact absurd rfl hne
  | cons p ps ih =>
    have hp : (s.slice p).getLast? = some '/' := h p (by simp)
    rw [cleanedThrough, List.getLast?_append]
    cases ps with
    | nil =>
      rw [List.getLast?_append, hp]
      rfl
    | cons q ps =>
      rw [ih (List.cons_ne_nil q ps) fun r hr => h r (by simp [hr])]
      rfl

end Plumbing

end TraitDoc
