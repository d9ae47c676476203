import Mathlib.Data.List.Nodup
import Mathlib.Data.List.Perm.Subperm
import TraitDoc.Plumbing.Rules
/-!
# Where the characters stood

A pass over a text gives a text, and from that alone one cannot tell which of
the characters of the text before are the ones that are left. So the pass is run
a second time on characters that carry the offset at which they stood. The rules
do not see the offsets, hence the same characters are removed, and what is left
tells where it comes from, after any number of passes.

Offsets are different, so a stretch of what is left stood together in the text
exactly if it is a stretch of the text with its offsets.

## Main definitions

* `Placed`, `Placed.ofText`, `Placed.text` — characters with offsets.
* `Placed.removeAll`, `Placed.passes` — one pass, and several.
* `Plumbing.kept` — what stripping leaves of a text, with offsets in that text.

## Main statements

* `Placed.text_passes`, `Plumbing.text_kept` — offsets change no pass.
* `Placed.exists_split` — a stretch that comes through stands between what is
  left of what stood before it and behind it.
* `Placed.exists_split_between` — a stretch that was there and is left has been
  there on the way.
* `Placed.rule_eq_zero_of_mem` — at a character that is left, the rule removed nothing.
-/

namespace TraitDoc

/-- Characters, each with the offset at which it stands in some text. -/
abbrev Placed := List (Char × Nat)

namespace Placed

/-- The characters of a text with their offsets. -/
def ofText (s : Text) : Placed := s.zipIdx

/-- The characters without their offsets. -/
def text (s : Placed) : Text := s.map Prod.fst

theorem text_ofText (s : Text) : (ofText s).text = s := List.zipIdx_map_fst 0 s

theorem nodup_ofText (s : Text) : (ofText s).Nodup := by
  have hoffsets : ((ofText s).map Prod.snd).Nodup := by
    rw [ofText, List.zipIdx_map_snd]
    exact List.nodup_range'
  exact hoffsets.of_map

theorem text_append (s t : Placed) : (s ++ t).text = s.text ++ t.text := List.map_append

/-! ## Passes -/

/-- The scan of `Text.removeFrom` on characters with offsets. -/
def removeFrom (rule : StretchRule) : (skip : Nat) → (lineStart : Bool) → Placed → Placed
  | _, _, [] => []
  | skip + 1, _, c :: s => removeFrom rule skip (c.1 == '\n') s
  | 0, lineStart, c :: s =>
    match rule lineStart (text (c :: s)) with
    | 0 => c :: removeFrom rule 0 (c.1 == '\n') s
    | n + 1 => removeFrom rule n (c.1 == '\n') s

/-- One pass of a rule. -/
def removeAll (rule : StretchRule) (s : Placed) : Placed := removeFrom rule 0 true s

/-- The passes of some rules, one after another. -/
def passes (rules : List StretchRule) (s : Placed) : Placed :=
  rules.foldl (fun s rule => removeAll rule s) s

theorem text_removeFrom (rule : StretchRule) (skip : Nat) (b : Bool) (s : Placed) :
    (removeFrom rule skip b s).text = Text.removeFrom rule skip b s.text := by
  induction s generalizing skip b with
  | nil => cases skip <;> rfl
  | cons c s ih =>
    cases skip with
    | succ skip => exact ih skip _
    | zero =>
      have htext : text (c :: s) = c.1 :: text s := rfl
      rw [htext, removeFrom, Text.removeFrom, htext]
      cases rule b (c.1 :: text s) with
      | zero => exact congrArg (c.1 :: ·) (ih 0 _)
      | succ n => exact ih n _

theorem removeFrom_sublist (rule : StretchRule) (skip : Nat) (b : Bool) (s : Placed) :
    (removeFrom rule skip b s).Sublist s := by
  induction s generalizing skip b with
  | nil => cases skip <;> exact List.Sublist.refl []
  | cons c s ih =>
    cases skip with
    | succ skip => exact (ih skip _).cons c
    | zero =>
      rw [removeFrom]
      split
      · exact (ih 0 _).cons_cons c
      · exact (ih _ _).cons c

/-- The offsets change no pass. -/
theorem text_passes (rules : List StretchRule) (s : Placed) :
    (passes rules s).text = rules.foldl (fun s rule => Text.removeAll rule s) s.text := by
  induction rules generalizing s with
  | nil => rfl
  | cons rule rules ih =>
    have hpass : (removeAll rule s).text = Text.removeAll rule s.text := text_removeFrom rule 0 true s
    rw [List.foldl_cons, ← hpass]
    exact ih (removeAll rule s)

theorem passes_sublist (rules : List StretchRule) (s : Placed) : (passes rules s).Sublist s := by
  induction rules generalizing s with
  | nil => exact List.Sublist.refl s
  | cons rule rules ih => exact (ih _).trans (removeFrom_sublist rule 0 true s)

theorem passes_append (rules later : List StretchRule) (s : Placed) :
    passes (rules ++ later) s = passes later (passes rules s) := List.foldl_append

/-! ## What comes through a pass -/

/-- At a character that is left, the rule has removed nothing. -/
theorem rule_eq_zero_of_mem {rule : StretchRule} {s rest : Placed} {c : Char × Nat}
    (hs : s.Nodup) (hsuffix : c :: rest <:+ s) (hc : c ∈ removeAll rule s) :
    ∃ b, rule b (text (c :: rest)) = 0 := by
  suffices h : ∀ s : Placed, s.Nodup → c :: rest <:+ s → ∀ skip b, c ∈ removeFrom rule skip b s →
      ∃ b, rule b (text (c :: rest)) = 0 from h s hs hsuffix 0 true hc
  intro s
  induction s with
  | nil =>
    intro _ hsuffix
    cases List.suffix_nil.1 hsuffix
  | cons d s ih =>
    intro hs hsuffix skip b hc
    have hd := List.nodup_cons.1 hs
    rcases List.suffix_cons_iff.1 hsuffix with heq | hsuffix
    · obtain ⟨rfl, rfl⟩ := List.cons.inj heq
      cases skip with
      | succ skip => exact absurd ((removeFrom_sublist rule skip _ _).subset hc) hd.1
      | zero =>
        rw [removeFrom] at hc
        cases hrule : rule b (text (c :: rest)) with
        | zero => exact ⟨b, hrule⟩
        | succ n =>
          rw [hrule] at hc
          exact absurd ((removeFrom_sublist rule n _ _).subset hc) hd.1
    · have hne : c ≠ d := by
        intro heq
        rw [heq] at hsuffix
        exact hd.1 (hsuffix.subset List.mem_cons_self)
      cases skip with
      | succ skip => exact ih hd.2 hsuffix skip _ hc
      | zero =>
        rw [removeFrom] at hc
        split at hc
        · exact ih hd.2 hsuffix 0 _ ((List.mem_cons.1 hc).resolve_left hne)
        · exact ih hd.2 hsuffix _ _ hc

/-- A stretch that comes through stands between what is left of what stood before it and behind it. -/
theorem exists_split {s t front stretch rest : Placed} (hs : s.Nodup)
    (hsplit : s = front ++ (stretch ++ rest)) (ht : t.Sublist s) (hstretch : ∀ c ∈ stretch, c ∈ t) :
    ∃ front' rest', t = front' ++ (stretch ++ rest') ∧ front'.Sublist front ∧ rest'.Sublist rest := by
  subst hsplit
  obtain ⟨front', later, rfl, hfront, hlater⟩ := List.sublist_append_iff.1 ht
  obtain ⟨mid, rest', rfl, hmid, hrest⟩ := List.sublist_append_iff.1 hlater
  obtain ⟨hnodup, hbehind, hapart⟩ := List.nodup_append.1 hs
  obtain ⟨hstretchNodup, -, hapart'⟩ := List.nodup_append.1 hbehind
  have hmem : stretch ⊆ mid := by
    intro c hc
    rcases List.mem_append.1 (hstretch c hc) with hin | hin
    · exact absurd rfl (hapart c (hfront.subset hin) c (List.mem_append_left _ hc))
    · rcases List.mem_append.1 hin with hin | hin
      · exact hin
      · exact absurd rfl (hapart' c hc c (hrest.subset hin))
  have hsame : mid = stretch :=
    hmid.eq_of_length_le (List.subperm_of_subset hstretchNodup hmem).length_le
  exact ⟨front', rest', by rw [hsame], hfront, hrest⟩

/-- A stretch stands at one place only. -/
theorem append_stretch_inj {s front front' stretch rest rest' : Placed} (hs : s.Nodup)
    (hstretch : stretch ≠ []) (h : s = front ++ (stretch ++ rest))
    (h' : s = front' ++ (stretch ++ rest')) : front = front' ∧ rest = rest' := by
  obtain ⟨c, more, rfl⟩ := List.exists_cons_of_ne_nil hstretch
  have heq : front ++ c :: (more ++ rest) = front' ++ c :: (more ++ rest') := h.symm.trans h'
  rw [h] at hs
  obtain ⟨-, hrest, hapart⟩ := List.nodup_append.1 hs
  have hbefore : c ∉ front := fun hin => hapart c hin c (by simp) rfl
  have hbehind : c ∉ more ++ rest := (List.nodup_cons.1 hrest).1
  obtain ⟨hfront, -, hsame⟩ := (List.append_cons_inj_of_notMem hbefore hbehind).1 heq
  exact ⟨hfront, List.append_cancel_left hsame⟩

/-- A stretch that was there and is left has been there on the way. -/
theorem exists_split_between {s mid t front front' stretch rest behind : Placed} (hs : s.Nodup)
    (hstretch : stretch ≠ []) (hsplit : s = front ++ (stretch ++ behind)) (hmid : mid.Sublist s)
    (ht : t.Sublist mid) (hleft : t = front' ++ (stretch ++ rest)) :
    ∃ frontMid restMid, mid = frontMid ++ (stretch ++ restMid) ∧ front'.Sublist frontMid ∧
      rest.Sublist restMid ∧ restMid.Sublist behind := by
  have hmem : ∀ c ∈ stretch, c ∈ t := by
    intro c hc
    rw [hleft]
    exact List.mem_append_right _ (List.mem_append_left _ hc)
  obtain ⟨frontMid, restMid, hsplitMid, -, hbehind⟩ :=
    exists_split hs hsplit hmid fun c hc => ht.subset (hmem c hc)
  obtain ⟨front'', rest', hsplit', hfront, hrest⟩ :=
    exists_split (hmid.nodup hs) hsplitMid ht hmem
  obtain ⟨rfl, rfl⟩ := append_stretch_inj ((ht.trans hmid).nodup hs) hstretch hleft hsplit'
  exact ⟨frontMid, restMid, hsplitMid, hfront, hrest, hbehind⟩

end Placed

/-! ## Stripping -/

namespace Plumbing

/-- What stripping leaves of a text, with the offsets in that text. -/
def kept (code : Text) : Placed := Placed.passes rules (Placed.ofText code)

theorem text_kept (code : Text) : (kept code).text = strip code := by
  rw [kept, Placed.text_passes, Placed.text_ofText]
  rfl

end Plumbing

end TraitDoc
