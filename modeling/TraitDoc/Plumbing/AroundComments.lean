import TraitDoc.DocComment
import TraitDoc.Plumbing.Rules
/-!
# Plumbing around comments

Documentation comments may talk about marks and imports, and what they say is to
stay. So the plumbing is stripped from the stretches of code before, between and
after the comments, each stretch for itself, and every comment is left as it
stands. A mark that reaches over a comment is therefore none.

## Main definitions

* `Plumbing.stripAroundComments` — the text with stripped code and untouched comments.

## Main statements

* `Plumbing.stripAroundComments_of_none`, `Plumbing.stripAroundComments_of_some` —
  a text without a comment, and the step over the first one.
-/

namespace TraitDoc.Plumbing

/-- The text with the plumbing stripped from its code and every documentation comment kept. -/
def stripAroundComments (s : Text) : Text :=
  match _h : DocComment.first? s with
  | none => strip s
  | some p => strip (s.take p.start) ++ s.slice p ++ stripAroundComments (s.drop p.stop)
termination_by s.length
decreasing_by
  have := DocComment.first?_bounds _h
  rw [List.length_drop]
  omega

theorem stripAroundComments_of_none {s : Text} (h : DocComment.first? s = none) :
    stripAroundComments s = strip s := by
  rw [stripAroundComments]
  split
  · rfl
  · rename_i h'
    rw [h] at h'
    cases h'

theorem stripAroundComments_of_some {s : Text} {p : Span} (h : DocComment.first? s = some p) :
    stripAroundComments s =
      strip (s.take p.start) ++ s.slice p ++ stripAroundComments (s.drop p.stop) := by
  rw [stripAroundComments]
  split
  · rename_i h'
    rw [h] at h'
    cases h'
  · rename_i h'
    rw [h] at h'
    cases h'
    rfl

end TraitDoc.Plumbing
