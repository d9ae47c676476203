import TraitDoc.Text.Basic
/-!
# The order of texts

Texts are ordered as in a dictionary: the first character in which two texts
differ decides, by its number, and a text comes before every longer text that
begins with it. Capital letters so come before small ones, and `/` comes before
letters and after `-` and `.`.

## Main definitions

* `Text.notAfter` — whether a text comes before another, or is the same.

## Main statements

* `Text.notAfter_total`, `Text.notAfter_trans`, `Text.notAfter_antisymm` — this
  is a total order, so sorting by it has one result for each list of texts.
-/

namespace TraitDoc.Text

/-- Whether a text comes before another, or is the same. -/
def notAfter : Text → Text → Bool
  | [], _ => true
  | _ :: _, [] => false
  | a :: s, b :: t => decide (a.toNat < b.toNat) || (a == b && notAfter s t)

@[simp] theorem nil_notAfter (t : Text) : notAfter [] t = true := by
  rw [notAfter]

@[simp] theorem cons_notAfter_nil (a : Char) (s : Text) : notAfter (a :: s) [] = false := by
  rw [notAfter]

/-- The first characters decide if they differ, and the rests if not. -/
theorem cons_notAfter_cons {a b : Char} {s t : Text} :
    notAfter (a :: s) (b :: t) = true ↔ a.toNat < b.toNat ∨ a = b ∧ notAfter s t = true := by
  rw [notAfter, Bool.or_eq_true, Bool.and_eq_true, decide_eq_true_eq, beq_iff_eq]

theorem notAfter_total (s t : Text) : (notAfter s t || notAfter t s) = true := by
  rw [Bool.or_eq_true]
  induction s generalizing t with
  | nil => exact .inl (nil_notAfter t)
  | cons a s ih =>
    cases t with
    | nil => exact .inr (nil_notAfter _)
    | cons b t =>
      rw [cons_notAfter_cons, cons_notAfter_cons]
      rcases Nat.lt_trichotomy a.toNat b.toNat with h | h | h
      · exact .inl (.inl h)
      · have hab : a = b := Char.toNat_inj.1 h
        rcases ih t with hs | hs
        · exact .inl (.inr ⟨hab, hs⟩)
        · exact .inr (.inr ⟨hab.symm, hs⟩)
      · exact .inr (.inl h)

theorem notAfter_trans {s t u : Text} (hst : notAfter s t = true) (htu : notAfter t u = true) :
    notAfter s u = true := by
  induction s generalizing t u with
  | nil => exact nil_notAfter u
  | cons a s ih =>
    cases t with
    | nil => simp at hst
    | cons b t =>
      cases u with
      | nil => simp at htu
      | cons c u =>
        rw [cons_notAfter_cons] at hst htu ⊢
        rcases hst with hab | ⟨rfl, hst⟩ <;> rcases htu with hbc | ⟨rfl, htu⟩
        · exact .inl (Nat.lt_trans hab hbc)
        · exact .inl hab
        · exact .inl hbc
        · exact .inr ⟨rfl, ih hst htu⟩

theorem notAfter_antisymm {s t : Text} (hst : notAfter s t = true) (hts : notAfter t s = true) :
    s = t := by
  induction s generalizing t with
  | nil =>
    cases t with
    | nil => rfl
    | cons b t => simp at hts
  | cons a s ih =>
    cases t with
    | nil => simp at hst
    | cons b t =>
      rw [cons_notAfter_cons] at hst hts
      rcases hst with hab | ⟨rfl, hst⟩
      · rcases hts with hba | ⟨rfl, _⟩
        · exact absurd hab (Nat.lt_asymm hba)
        · exact absurd hab (Nat.lt_irrefl _)
      · rcases hts with haa | ⟨_, hts⟩
        · exact absurd haa (Nat.lt_irrefl _)
        · rw [ih hst hts]

end TraitDoc.Text
