import TraitDoc.Text.Basic
/-!
# Documentation comments

A documentation comment opens with `/**` and runs through the first `*/` after
the opener. Comments do not nest: an opener inside a comment is plain text, and
so is an opener that is never closed. The shortest comment is `/***/`; in `/**/`
the closer would share the second star with the opener, so it opens a comment
and closes none.

A comment is known by its `Span`, the two offsets between which it stands. All
comments of a text come from one search that is taken up again at the end of
the comment found last.

## Main definitions

* `Span`, `Text.slice` — a stretch of a text and its characters.
* `DocComment.first?` — the first comment of a text.
* `DocComment.firstFrom?` — the first comment at or after an offset, which may
  be counted from the end of the text.
* `DocComment.spans` — all comments of a text, in order.

## Main statements

* `DocComment.first?_bounds` — a comment has at least five characters and lies
  inside the text.
* `DocComment.spansFrom_of_some`, `DocComment.spansFrom_of_none` — the step of
  the iteration, by which nobody unfolds it.
-/

namespace TraitDoc

/-- A stretch of a text, from the offset `start` up to but not including `stop`. -/
structure Span where
  start : Nat
  stop : Nat
deriving DecidableEq, Repr

/-- The same stretch, seen from `offset` characters further to the left. -/
def Span.shift (p : Span) (offset : Nat) : Span := ⟨offset + p.start, offset + p.stop⟩

/-- The characters of a stretch. -/
def Text.slice (s : Text) (p : Span) : Text := (s.drop p.start).take (p.stop - p.start)

namespace DocComment

/-- What a documentation comment begins with. -/
def opener : Text := ['/', '*', '*']

/-- What a documentation comment ends with. -/
def closer : Text := ['*', '/']

/-! ## The first comment -/

/--
The first documentation comment: the first opener with the first closer after
it. A text whose first opener is not closed has no comment at all, because a
closer of a later opener would close the first one too.
-/
def first? (s : Text) : Option Span := do
  let start ← Text.indexOf? opener s
  let gap ← Text.indexOf? closer (s.drop (start + opener.length))
  return ⟨start, start + opener.length + gap + closer.length⟩

theorem first?_eq_some_iff {s : Text} {p : Span} :
    first? s = some p ↔ ∃ gap, Text.indexOf? opener s = some p.start ∧
      Text.indexOf? closer (s.drop (p.start + 3)) = some gap ∧ p.stop = p.start + 3 + gap + 2 := by
  obtain ⟨start, stop⟩ := p
  simp only [first?, Option.bind_eq_bind, Option.bind_eq_some_iff, Option.pure_def,
    Option.some.injEq, Span.mk.injEq, opener, closer, List.length_cons, List.length_nil]
  constructor
  · rintro ⟨b, hb, gap, hgap, rfl, rfl⟩
    exact ⟨gap, hb, hgap, rfl⟩
  · rintro ⟨gap, hb, hgap, rfl⟩
    exact ⟨start, hb, gap, hgap, rfl, rfl⟩

/-- A comment has at least five characters and lies inside the text. -/
theorem first?_bounds {s : Text} {p : Span} (h : first? s = some p) :
    p.start + 5 ≤ p.stop ∧ p.stop ≤ s.length := by
  obtain ⟨gap, -, hgap, hstop⟩ := first?_eq_some_iff.1 h
  have := Text.indexOf?_add_length_le hgap
  rw [List.length_drop, closer, List.length_cons, List.length_cons, List.length_nil] at this
  omega

/-! ## The first comment from an offset -/

/-- An offset that may be counted from the end of the text when it is negative, never before the start. -/
def offsetOf (s : Text) (start : Int) : Nat :=
  if start < 0 then (s.length + start).toNat else start.toNat

/-- The first documentation comment that begins at or after an offset. -/
def firstFrom? (start : Int) (s : Text) : Option Span :=
  let base := offsetOf s start
  (first? (s.drop base)).map fun p => p.shift base

theorem firstFrom?_natCast (start : Nat) (s : Text) :
    firstFrom? start s = (first? (s.drop start)).map fun p => p.shift start := by
  have : ¬ (start : Int) < 0 := by omega
  simp [firstFrom?, offsetOf, this]

theorem firstFrom?_bounds {start : Nat} {s : Text} {p : Span}
    (h : firstFrom? start s = some p) :
    start ≤ p.start ∧ p.start + 5 ≤ p.stop ∧ p.stop ≤ s.length := by
  rw [firstFrom?_natCast, Option.map_eq_some_iff] at h
  obtain ⟨q, hq, rfl⟩ := h
  have := first?_bounds hq
  rw [List.length_drop] at this
  simp only [Span.shift]
  omega

/-! ## All comments -/

/-- The comments found from an offset on, each search beginning where the comment before it ends. -/
def spansFrom (start : Nat) (s : Text) : List Span :=
  match _h : firstFrom? start s with
  | none => []
  | some p => p :: spansFrom p.stop s
termination_by s.length - start
decreasing_by
  have := firstFrom?_bounds _h
  omega

theorem spansFrom_of_none {start : Nat} {s : Text} (h : firstFrom? start s = none) :
    spansFrom start s = [] := by
  rw [spansFrom]
  split
  · rfl
  · rename_i h'
    rw [h] at h'
    cases h'

theorem spansFrom_of_some {start : Nat} {s : Text} {p : Span}
    (h : firstFrom? start s = some p) : spansFrom start s = p :: spansFrom p.stop s := by
  rw [spansFrom]
  split
  · rename_i h'
    rw [h] at h'
    cases h'
  · rename_i h'
    rw [h] at h'
    cases h'
    rfl

/-- All documentation comments of a text, in order. -/
def spans (s : Text) : List Span := spansFrom 0 s

end DocComment

end TraitDoc
