/-!
# Texts

Everything this library reads and writes is a `Text`: the list of its
characters. Offsets and lengths therefore count characters, never bytes, and
every function on texts is a recursion on a list, which is what the laws of the
later modules induct on.

This module holds the searches that the later modules share. Each is stated by
what stands at an offset: `text.drop i` is the text *from offset `i` on*, and a
word *stands at* `i` when it is a prefix of `text.drop i`.

## Main definitions

* `Text.indexOf?` — the least offset at which a word stands.
* `Text.lastIndexOf?` — the greatest offset at which a character stands.
* `Text.line` — the text up to its first line feed.
* `Text.dropTrailing` — the text without the copies of a character at its end.
* `Text.withoutLineFeed` — the text without the line feed that it may end in.
* `Text.withoutEnd` — the text before its last characters.

## Main statements

* `Text.indexOf?_eq_some_iff` and `Text.indexOf?_eq_none_iff` — `indexOf?` is
  exact: it finds the first offset, and it fails only where there is none.
* `Text.lastIndexOf?_eq_some_iff` — likewise for the last offset.
-/

namespace TraitDoc

/-- A text is the list of its characters. -/
abbrev Text := List Char

namespace Text

/-! ## Searching forward -/

/-- The least offset at which `word` stands in the text. -/
def indexOf? (word : Text) : Text → Option Nat
  | [] => if word.isPrefixOf [] then some 0 else none
  | c :: s => if word.isPrefixOf (c :: s) then some 0 else (indexOf? word s).map (· + 1)

theorem indexOf?_cons_of_not {word : Text} {c : Char} {s : Text}
    (h : ¬ word <+: c :: s) : indexOf? word (c :: s) = (indexOf? word s).map (· + 1) := by
  rw [← List.isPrefixOf_iff_prefix] at h
  simp [indexOf?, h]

theorem indexOf?_eq_zero {word s : Text} (h : word <+: s) : indexOf? word s = some 0 := by
  rw [← List.isPrefixOf_iff_prefix] at h
  cases s <;> simp [indexOf?, h]

/-- Where `indexOf?` answers, the word stands there and at no smaller offset. -/
theorem indexOf?_eq_some_iff {word s : Text} {i : Nat} :
    indexOf? word s = some i ↔
      i ≤ s.length ∧ word <+: s.drop i ∧ ∀ j < i, ¬ word <+: s.drop j := by
  induction s generalizing i with
  | nil =>
    by_cases h : word <+: []
    · rw [indexOf?_eq_zero h]
      constructor
      · rintro ⟨⟩
        exact ⟨Nat.le_refl 0, by simpa using h, fun j hj => absurd hj (Nat.not_lt_zero j)⟩
      · rintro ⟨hi, -, -⟩
        simp only [List.length_nil, Nat.le_zero_eq] at hi
        rw [hi]
    · have : indexOf? word [] = none := by
        rw [← List.isPrefixOf_iff_prefix] at h
        simp [indexOf?, h]
      rw [this]
      constructor
      · rintro ⟨⟩
      · rintro ⟨-, hw, -⟩
        exact absurd (by simpa using hw) h
  | cons c s ih =>
    by_cases h : word <+: c :: s
    · rw [indexOf?_eq_zero h]
      constructor
      · rintro ⟨⟩
        exact ⟨Nat.zero_le _, by simpa using h, fun j hj => absurd hj (Nat.not_lt_zero j)⟩
      · rintro ⟨-, -, hmin⟩
        cases i with
        | zero => rfl
        | succ i => exact absurd (by simpa using h) (hmin 0 (Nat.succ_pos i))
    · rw [indexOf?_cons_of_not h, Option.map_eq_some_iff]
      constructor
      · rintro ⟨k, hk, rfl⟩
        obtain ⟨hle, hw, hmin⟩ := ih.1 hk
        refine ⟨Nat.succ_le_succ hle, by simpa using hw, fun j hj => ?_⟩
        cases j with
        | zero => simpa using h
        | succ j => simpa using hmin j (Nat.lt_of_succ_lt_succ hj)
      · rintro ⟨hle, hw, hmin⟩
        cases i with
        | zero => exact absurd (by simpa using hw) h
        | succ i =>
          refine ⟨i, ih.2 ⟨Nat.le_of_succ_le_succ hle, by simpa using hw, fun j hj => ?_⟩, rfl⟩
          simpa using hmin (j + 1) (Nat.succ_lt_succ hj)

/-- `indexOf?` fails only where the word stands nowhere. -/
theorem indexOf?_eq_none_iff {word s : Text} :
    indexOf? word s = none ↔ ∀ i ≤ s.length, ¬ word <+: s.drop i := by
  induction s with
  | nil =>
    by_cases h : word <+: []
    · rw [indexOf?_eq_zero h]
      simpa using h
    · have : indexOf? word [] = none := by
        rw [← List.isPrefixOf_iff_prefix] at h
        simp [indexOf?, h]
      simpa [this] using h
  | cons c s ih =>
    by_cases h : word <+: c :: s
    · rw [indexOf?_eq_zero h]
      constructor
      · rintro ⟨⟩
      · exact fun hall => absurd (by simpa using h) (hall 0 (Nat.zero_le _))
    · rw [indexOf?_cons_of_not h, Option.map_eq_none_iff, ih]
      constructor
      · intro hall i hi
        cases i with
        | zero => simpa using h
        | succ i => simpa using hall i (Nat.le_of_succ_le_succ hi)
      · intro hall i hi
        simpa using hall (i + 1) (Nat.succ_le_succ hi)

/-- The word that `indexOf?` finds fits into the text. -/
theorem indexOf?_add_length_le {word s : Text} {i : Nat} (h : indexOf? word s = some i) :
    i + word.length ≤ s.length := by
  obtain ⟨hi, hw, -⟩ := indexOf?_eq_some_iff.1 h
  have := hw.length_le
  rw [List.length_drop] at this
  omega

/-! ## Searching backward -/

/-- The greatest offset at which the character `mark` stands in the text. -/
def lastIndexOf? (mark : Char) : Text → Option Nat
  | [] => none
  | c :: s =>
    match lastIndexOf? mark s with
    | some i => some (i + 1)
    | none => if c = mark then some 0 else none

theorem lastIndexOf?_eq_none_iff {mark : Char} {s : Text} :
    lastIndexOf? mark s = none ↔ mark ∉ s := by
  induction s with
  | nil => simp [lastIndexOf?]
  | cons c s ih =>
    rw [lastIndexOf?]
    cases h : lastIndexOf? mark s with
    | some i =>
      have : mark ∈ s := by
        refine Decidable.byContradiction fun hm => ?_
        rw [ih.2 hm] at h
        cases h
      simp [this]
    | none =>
      have := ih.1 h
      by_cases hc : c = mark
      · simp [hc]
      · simp [hc, this, Ne.symm hc]

/-- Where `lastIndexOf?` answers, the character stands there and nowhere after it. -/
theorem lastIndexOf?_eq_some_iff {mark : Char} {s : Text} {i : Nat} :
    lastIndexOf? mark s = some i ↔ s[i]? = some mark ∧ mark ∉ s.drop (i + 1) := by
  induction s generalizing i with
  | nil => simp [lastIndexOf?]
  | cons c s ih =>
    rw [lastIndexOf?]
    cases h : lastIndexOf? mark s with
    | some k =>
      have hk := ih.1 h
      constructor
      · rintro ⟨⟩
        simpa using hk
      · rintro ⟨hi, hafter⟩
        cases i with
        | zero =>
          have : mark ∉ s := by simpa using hafter
          rw [lastIndexOf?_eq_none_iff.2 this] at h
          cases h
        | succ i =>
          have : lastIndexOf? mark s = some i := ih.2 (by simpa using ⟨hi, hafter⟩)
          rw [h] at this
          cases this
          rfl
    | none =>
      have hno := lastIndexOf?_eq_none_iff.1 h
      cases i with
      | zero => by_cases hc : c = mark <;> simp [hc, hno]
      | succ i =>
        have : s[i]? ≠ some mark := fun hs => hno (List.mem_of_getElem? hs)
        by_cases hc : c = mark <;> simp [hc, this]

/-! ## Lines and ends -/

/-- The text up to its first line feed, or all of it. -/
def line (s : Text) : Text := s.takeWhile (· != '\n')

theorem line_isPrefix (s : Text) : line s <+: s := List.takeWhile_prefix _

/-- The text without the copies of `mark` at its end. -/
def dropTrailing (mark : Char) (s : Text) : Text := (s.reverse.dropWhile (· == mark)).reverse

theorem dropTrailing_isPrefix (mark : Char) (s : Text) : dropTrailing mark s <+: s := by
  have h : s.reverse.dropWhile (· == mark) <:+ s.reverse := List.dropWhile_suffix _
  rw [dropTrailing, ← List.reverse_suffix, List.reverse_reverse]
  exact h

/-- The text without the line feed that it may end in. -/
def withoutLineFeed (s : Text) : Text := if s.getLast? = some '\n' then s.dropLast else s

/-- The text before its last `n` characters, where an end of no characters leaves nothing before it. -/
def withoutEnd (s : Text) (n : Nat) : Text := if n = 0 then [] else s.take (s.length - n)

/-- What is left before an end that is not empty. -/
theorem withoutEnd_append {tail : Text} (s : Text) (h : tail ≠ []) :
    withoutEnd (s ++ tail) tail.length = s := by
  have : tail.length ≠ 0 := by simpa using h
  rw [withoutEnd, if_neg this, List.length_append, Nat.add_sub_cancel, List.take_left]

end Text

end TraitDoc
