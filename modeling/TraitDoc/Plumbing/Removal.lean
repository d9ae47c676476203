import TraitDoc.Text.Basic
/-!
# Removing stretches of a text

A *stretch rule* looks at the text from one place on and says how many
characters to remove there, or `0` where nothing is to go. It is also told
whether a line begins at that place.

`Text.removeAll` runs such a rule over a whole text from left to right. Where
the rule removes something, the search is taken up again behind the removed
stretch, so removed stretches never overlap, and what a removal brings together
is not looked at again.

The scan carries the number of characters that are still to be dropped. That
makes it a plain recursion on the text, whatever the rule answers.

## Main definitions

* `StretchRule` — what to remove at a place.
* `Text.removeAll` — one pass of a rule over a text.

## Main statements

* `Text.removeAll_sublist` — a pass only deletes.
* `Text.removeAll_eq_self` — a pass of a rule that removes nothing changes nothing.
-/

namespace TraitDoc

/-- How many characters to remove where the given text begins; the flag tells whether a line begins there too. -/
abbrev StretchRule := (lineStart : Bool) → (rest : Text) → Nat

namespace Text

/-- The scan of `removeAll`: `skip` characters are still to be dropped, and the flag tells whether a line begins here. -/
def removeFrom (rule : StretchRule) : (skip : Nat) → (lineStart : Bool) → Text → Text
  | _, _, [] => []
  | skip + 1, _, c :: s => removeFrom rule skip (c == '\n') s
  | 0, lineStart, c :: s =>
    match rule lineStart (c :: s) with
    | 0 => c :: removeFrom rule 0 (c == '\n') s
    | n + 1 => removeFrom rule n (c == '\n') s

/-- The text without the stretches that the rule removes, found from left to right. -/
def removeAll (rule : StretchRule) (s : Text) : Text := removeFrom rule 0 true s

theorem removeFrom_sublist (rule : StretchRule) (skip : Nat) (lineStart : Bool) (s : Text) :
    (removeFrom rule skip lineStart s).Sublist s := by
  induction s generalizing skip lineStart with
  | nil => cases skip <;> simp [removeFrom]
  | cons c s ih =>
    cases skip with
    | succ skip => exact (ih skip _).cons c
    | zero =>
      rw [removeFrom]
      split
      · exact (ih 0 _).cons_cons c
      · exact (ih _ _).cons c

/-- A pass only deletes. -/
theorem removeAll_sublist (rule : StretchRule) (s : Text) : (removeAll rule s).Sublist s :=
  removeFrom_sublist rule 0 true s

theorem removeFrom_eq_self {rule : StretchRule} {s : Text}
    (h : ∀ b t, t <:+ s → t ≠ [] → rule b t = 0) (lineStart : Bool) :
    removeFrom rule 0 lineStart s = s := by
  induction s generalizing lineStart with
  | nil => simp [removeFrom]
  | cons c s ih =>
    rw [removeFrom, h lineStart (c :: s) (List.suffix_refl _) (List.cons_ne_nil c s)]
    exact congrArg (c :: ·) (ih (fun b t ht => h b t (ht.trans (List.suffix_cons c s))) _)

/-- A rule that removes nothing anywhere in the text changes nothing. -/
theorem removeAll_eq_self {rule : StretchRule} {s : Text}
    (h : ∀ b t, t <:+ s → t ≠ [] → rule b t = 0) : removeAll rule s = s :=
  removeFrom_eq_self h true

end Text

end TraitDoc
