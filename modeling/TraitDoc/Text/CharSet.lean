import TraitDoc.Text.Basic
/-!
# Sets of characters

A character class of the Unicode standard is a set of code points that a text
file lists as closed ranges. `CharSet` is that list, and membership is the
comparison with each range in turn, so that a question about one character is
settled by comparing numbers.

## Main definitions

* `CharSet` — a list of closed ranges of code points.
* `CharSet.contains` — membership.
* `CharSet.Apart` — no range of one set meets a range of the other.

## Main statements

* `CharSet.Apart.not_contains` — sets that lie apart have no character in common.
-/

namespace TraitDoc

/-- A set of characters, as the closed ranges of its code points. -/
abbrev CharSet := List (Nat × Nat)

/-- Whether the character's code point lies in one of the ranges. -/
def CharSet.contains (ranges : CharSet) (c : Char) : Bool :=
  ranges.any fun r => r.1 ≤ c.toNat && c.toNat ≤ r.2

theorem CharSet.contains_iff {ranges : CharSet} {c : Char} :
    ranges.contains c = true ↔ ∃ r ∈ ranges, r.1 ≤ c.toNat ∧ c.toNat ≤ r.2 := by
  simp [CharSet.contains]

/-- The number of code points in the ranges. -/
def CharSet.size (ranges : CharSet) : Nat := ranges.foldl (fun n r => n + (r.2 + 1 - r.1)) 0

/-- Every range of one set lies wholly below or wholly above every range of the other. -/
abbrev CharSet.Apart (left right : CharSet) : Prop :=
  ∀ r ∈ left, ∀ s ∈ right, r.2 < s.1 ∨ s.2 < r.1

theorem CharSet.Apart.not_contains {left right : CharSet} (h : left.Apart right) {c : Char}
    (hc : left.contains c = true) : right.contains c = false := by
  rw [← Bool.not_eq_true, CharSet.contains_iff]
  intro ⟨s, hs, hlo, hhi⟩
  obtain ⟨r, hr, hlo', hhi'⟩ := CharSet.contains_iff.1 hc
  have := h r hr s hs
  omega

end TraitDoc
