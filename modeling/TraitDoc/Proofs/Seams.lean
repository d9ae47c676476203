import Mathlib.Data.List.TakeWhile
import TraitDoc.Plumbing.Removal
import TraitDoc.Text.Split
/-!
# Removal across a seam

`Text.removeAll` reads a text from left to right, and a stretch rule sees the
whole rest of the text at every place. So a pass over `s ++ tail` is, a priori,
not a pass over `s` followed by a pass over `tail`: a rule may reach from `s`
into `tail`, or decide in `s` by what stands in `tail`.

This module says when it is. The *seam* between `s` and `tail` is tight for a
rule if the rule answers the same at every place of `s`, whether or not `tail`
follows. Then the pass falls apart there, and the only thing that `tail` still
learns from `s` is whether a line begins at the seam.

The seam that matters most is a line feed. A rule that keeps to its line, in the
sense of `StretchRule.KeepsToLine`, can be run line by line.

## Main definitions

* `Text.beginsLineAfter` — whether a line begins behind a text.
* `StretchRule.Fits`, `StretchRule.Unanchored`, `StretchRule.KeepsToLine` — what
  is asked of rules.

## Main statements

* `Text.removeFrom_append`, `Text.removeAll_append` — a pass falls apart at a
  tight seam.
* `Text.removeAll_append_lineFeed` — a rule that keeps to its line runs line by line.
* `Text.line_induction` — texts by their lines.
-/

namespace TraitDoc

/-! ## What is asked of rules -/

/-- The rule never removes more than there is. -/
def StretchRule.Fits (rule : StretchRule) : Prop := ∀ b s, rule b s ≤ s.length

/-- The rule does not ask whether a line begins. -/
def StretchRule.Unanchored (rule : StretchRule) : Prop := ∀ b b' s, rule b s = rule b' s

/-- The rule neither removes a line feed nor looks behind one. -/
structure StretchRule.KeepsToLine (rule : StretchRule) : Prop where
  fits : rule.Fits
  blind : ∀ b s t, rule b (s ++ '\n' :: t) = rule b s

namespace Text

/-! ## Where lines begin -/

/-- Whether a line begins behind a text; where the text is empty, `b` tells. -/
def beginsLineAfter (b : Bool) : Text → Bool
  | [] => b
  | c :: s => beginsLineAfter (c == '\n') s

/-! ## The seam -/

/--
A pass over `s ++ tail` is a pass over `s` and then one over `tail`, if the rule
answers at no place of `s` otherwise because of `tail`. The characters that are
still to be dropped must lie in `s`.
-/
theorem removeFrom_append {rule : StretchRule} {s tail : Text} (hfits : rule.Fits)
    (hblind : ∀ b t, t <:+ s → t ≠ [] → rule b (t ++ tail) = rule b t) {skip : Nat}
    (hskip : skip ≤ s.length) (b : Bool) :
    removeFrom rule skip b (s ++ tail) =
      removeFrom rule skip b s ++ removeFrom rule 0 (beginsLineAfter b s) tail := by
  induction s generalizing skip b with
  | nil =>
    have hzero : skip = 0 := Nat.le_zero.1 hskip
    subst hzero
    rfl
  | cons c s ih =>
    have hrest : ∀ b t, t <:+ s → t ≠ [] → rule b (t ++ tail) = rule b t :=
      fun b t ht => hblind b t (ht.trans (List.suffix_cons c s))
    cases skip with
    | succ skip => exact ih hrest (Nat.le_of_succ_le_succ hskip) _
    | zero =>
      have hhere : rule b (c :: (s ++ tail)) = rule b (c :: s) :=
        hblind b (c :: s) (List.suffix_refl _) (List.cons_ne_nil c s)
      have hlen : rule b (c :: s) ≤ s.length + 1 := hfits b (c :: s)
      rw [List.cons_append, removeFrom, removeFrom, hhere]
      cases hn : rule b (c :: s) with
      | zero =>
        show c :: removeFrom rule 0 (c == '\n') (s ++ tail) = _
        rw [ih hrest (Nat.zero_le _)]
        rfl
      | succ n => exact ih hrest (by omega) _

theorem removeAll_append {rule : StretchRule} {s tail : Text} (hfits : rule.Fits)
    (hblind : ∀ b t, t <:+ s → t ≠ [] → rule b (t ++ tail) = rule b t) :
    removeAll rule (s ++ tail) =
      removeAll rule s ++ removeFrom rule 0 (beginsLineAfter true s) tail :=
  removeFrom_append hfits hblind (Nat.zero_le _) true

theorem removeFrom_of_unanchored {rule : StretchRule} (h : rule.Unanchored) (skip : Nat)
    (b b' : Bool) (s : Text) : removeFrom rule skip b s = removeFrom rule skip b' s := by
  cases s with
  | nil => cases skip <;> rfl
  | cons c s =>
    cases skip with
    | succ skip => rfl
    | zero => rw [removeFrom, removeFrom, h b b']

/-- Where nothing in `tail` is removed, the pass leaves `tail` as it is. -/
theorem removeAll_append_of_untouched {rule : StretchRule} {s tail : Text} (hfits : rule.Fits)
    (hblind : ∀ b t, t <:+ s → t ≠ [] → rule b (t ++ tail) = rule b t)
    (htail : ∀ b t, t <:+ tail → t ≠ [] → rule b t = 0) :
    removeAll rule (s ++ tail) = removeAll rule s ++ tail := by
  rw [removeAll_append hfits hblind, removeFrom_eq_self htail]

/-- What a rule removes as a whole is passed over. -/
theorem removeFrom_of_removed {rule : StretchRule} {s t : Text} {b : Bool}
    (h : rule b (s ++ t) = s.length) (hs : s ≠ []) :
    removeFrom rule 0 b (s ++ t) = removeFrom rule 0 (beginsLineAfter b s) t := by
  have hskip : ∀ (u : Text) b,
      removeFrom rule u.length b (u ++ t) = removeFrom rule 0 (beginsLineAfter b u) t := by
    intro u
    induction u with
    | nil => intro b; rfl
    | cons c u ih => intro b; exact ih _
  cases s with
  | nil => exact absurd rfl hs
  | cons c s =>
    rw [List.cons_append, List.length_cons] at h
    rw [List.cons_append, removeFrom, h]
    exact hskip s _

/-! ## Line by line -/

/-- A rule that keeps to its line runs line by line. -/
theorem removeAll_append_lineFeed {rule : StretchRule} (h : rule.KeepsToLine) (s t : Text) :
    removeAll rule (s ++ '\n' :: t) = removeAll rule s ++ '\n' :: removeAll rule t := by
  have hhere : ∀ b, rule b ('\n' :: t) = 0 := by
    intro b
    have hempty : rule b [] = 0 := Nat.le_zero.1 (h.fits b [])
    rw [← hempty]
    exact h.blind b [] t
  rw [removeAll_append h.fits (fun b u _ _ => h.blind b u t), removeFrom, hhere]
  rfl

/-- Texts by their lines: a text is a line, or a line before a line feed and a text behind it. -/
theorem line_induction {P : Text → Prop} (line : ∀ l, '\n' ∉ l → P l)
    (feed : ∀ l s, '\n' ∉ l → P s → P (l ++ '\n' :: s)) (s : Text) : P s := by
  by_cases h : '\n' ∈ s
  · obtain ⟨l, t, hs, hl⟩ := List.eq_append_cons_of_mem h
    have hshort : t.length < s.length := by
      rw [hs, List.length_append, List.length_cons]
      omega
    rw [hs]
    exact feed l t hl (line_induction line feed t)
  · exact line s h
termination_by s.length

theorem afterLast_of_not_mem {mark : Char} {s : Text} (h : mark ∉ s) : afterLast mark s = s := by
  have hall : ∀ c ∈ s.reverse, (c != mark) = true := by
    intro c hc
    have hne : c ≠ mark := fun heq => h (heq ▸ List.mem_reverse.1 hc)
    simpa using hne
  rw [afterLast, List.takeWhile_eq_self_iff.2 hall, List.reverse_reverse]

/-- Only what stands behind the last mark counts. -/
theorem afterLast_append_cons (mark : Char) (s t : Text) :
    afterLast mark (s ++ mark :: t) = afterLast mark t := by
  have hrev : (s ++ mark :: t).reverse = t.reverse ++ mark :: s.reverse := by simp
  rw [afterLast, afterLast, hrev, List.takeWhile_append]
  split
  · rename_i hlen
    have hall : t.reverse.takeWhile (· != mark) = t.reverse :=
      (List.takeWhile_prefix _).eq_of_length hlen
    rw [hall]
    simp
  · rfl

end Text

end TraitDoc
