import TraitDoc.Text.Basic
/-!
# Splitting texts

A text is cut at every copy of a mark, which gives one stretch more than there
are marks, and stretches are put together with the mark between each two.

## Main definitions

* `Text.splitAt`, `Text.joinWith` — cutting and putting together.
* `Text.afterLast` — the stretch after the last mark.

## Main statements

* `Text.not_mem_of_mem_splitAt` — no stretch holds the mark.
* `Text.splitAt_of_not_mem`, `Text.splitAt_append_cons` — the stretches, one after another.
-/

namespace TraitDoc

/-- The stretches of the text between the copies of `mark`, one more than there are copies. -/
def Text.splitAt (mark : Char) : Text → List Text
  | [] => [[]]
  | c :: s =>
    if c = mark then [] :: splitAt mark s
    else
      match splitAt mark s with
      | [] => [[c]]
      | word :: words => (c :: word) :: words

theorem Text.not_mem_of_mem_splitAt {mark : Char} {s word : Text} (h : word ∈ splitAt mark s) :
    mark ∉ word := by
  induction s generalizing word with
  | nil =>
    rw [splitAt, List.mem_singleton] at h
    simp [h]
  | cons c s ih =>
    rw [splitAt] at h
    split at h
    · rcases List.mem_cons.1 h with rfl | h
      · simp
      · exact ih h
    · rename_i hc
      split at h
      · rw [List.mem_singleton] at h
        simpa [h] using Ne.symm hc
      · rename_i first rest hsplit
        rcases List.mem_cons.1 h with rfl | h
        · have : mark ∉ first := ih (by simp [hsplit])
          simp [this, Ne.symm hc]
        · exact ih (by simp [hsplit, h])

theorem Text.splitAt_of_not_mem {mark : Char} {s : Text} (h : mark ∉ s) : splitAt mark s = [s] := by
  induction s with
  | nil => rfl
  | cons c s ih =>
    have hne : mark ≠ c ∧ mark ∉ s := by simpa using h
    rw [splitAt, if_neg (Ne.symm hne.1), ih hne.2]

/-- The stretch before the first mark comes first. -/
theorem Text.splitAt_append_cons {mark : Char} {word : Text} (h : mark ∉ word) (s : Text) :
    splitAt mark (word ++ mark :: s) = word :: splitAt mark s := by
  induction word with
  | nil => rw [List.nil_append, splitAt, if_pos rfl]
  | cons c word ih =>
    have hne : mark ≠ c ∧ mark ∉ word := by simpa using h
    rw [List.cons_append, splitAt, if_neg (Ne.symm hne.1), ih hne.2]

/-- The words with `mark` between each two. -/
def Text.joinWith (mark : Char) (words : List Text) : Text := List.intercalate [mark] words

/-- The text after the last copy of `mark`, all of it where there is none. -/
def Text.afterLast (mark : Char) (s : Text) : Text := (s.reverse.takeWhile (· != mark)).reverse

theorem Text.not_mem_afterLast (mark : Char) (s : Text) : mark ∉ afterLast mark s := by
  rw [afterLast, List.mem_reverse]
  intro h
  have := List.all_eq_true.1 (List.all_takeWhile (p := (· != mark)) (l := s.reverse)) _ h
  simp at this

end TraitDoc
