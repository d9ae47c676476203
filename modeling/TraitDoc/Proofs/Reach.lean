import TraitDoc.Plumbing.Rules
import TraitDoc.Proofs.Seams
/-!
# How far the plumbing rules reach

A rule for a mark looks from the mark to a closing parenthesis of its line, or
just one character further, to see whether the mark is a whole word. So what
stands behind a blank, with no closing parenthesis left on the line, is out of
its reach: nothing there is removed, and nothing there changes what is removed
before it. `Text.OutOfReach` names such texts; the declaration at the end of a
header is one.

The declaring keyword is no such mark, because the spaces before it may be
white space that a seam lies in. Its reach is stated apart: what it removes ends
in the only `@` of it, so in a text without another `@` the pass stops there.

## Main definitions

* `Text.OutOfReach` — a text that no mark before it reaches into.
* `Plumbing.MarkRule` — what the rules for marks have in common.
* `Plumbing.IsMark` — the marks, as far as they are no declaring keyword.
* `Plumbing.publicKeyword` — what the rule for the declaring keyword removes.

## Main statements

* `Plumbing.markRule_of_mem` — the first five rules are rules for marks.
* `Plumbing.removeAll_declaringKeyword_of_public`,
  `Plumbing.removeAll_declaringKeyword_of_not_public` — when a keyword is removed.
* `Plumbing.removeAll_declaringKeyword_append` — what follows a keyword stays.
* `Plumbing.importLine_keepsToLine`, `Plumbing.removeAll_importLine_of_not_mem` —
  imports go line by line, and a line goes as a whole.
-/

namespace TraitDoc

namespace Text

/-! ## Words across a seam -/

/-- A word that stands where `s ++ t` begins stands in `s`, or it goes on from `s` into `t`. -/
theorem prefix_append_cases {word s t : Text} (h : word <+: s ++ t) :
    word <+: s ∨ ∃ c rest, word = s ++ c :: rest ∧ c :: rest <+: t := by
  rcases List.prefix_or_prefix_of_prefix h (List.prefix_append s t) with hs | hs
  · exact .inl hs
  · obtain ⟨rest, rfl⟩ := hs
    cases rest with
    | nil =>
      rw [List.append_nil]
      exact .inl (List.prefix_refl s)
    | cons c rest => exact .inr ⟨c, rest, rfl, (List.prefix_append_right_inj s).1 h⟩

/-- A word does not reach into a text that begins with a character foreign to it. -/
theorem prefix_append_cons_iff {word s t : Text} {c : Char} (hc : c ∉ word) :
    word <+: s ++ c :: t ↔ word <+: s := by
  constructor
  · intro h
    rcases prefix_append_cases h with h | ⟨d, rest, hword, hd⟩
    · exact h
    · have hcd : d = c := (List.cons_prefix_cons.1 hd).1
      rw [hword, hcd] at hc
      simp at hc
  · intro h
    exact h.trans (List.prefix_append s _)

/-- A word does not go on into a text whose first character is none of its later characters. -/
theorem prefix_of_prefix_append {word s t : Text} {c : Char} (hc : c ∉ word.tail) (hs : s ≠ [])
    (h : word <+: s ++ c :: t) : word <+: s := by
  rcases prefix_append_cases h with h | ⟨d, rest, rfl, hd⟩
  · exact h
  · have hcd : d = c := (List.cons_prefix_cons.1 hd).1
    rw [List.tail_append_of_ne_nil hs] at hc
    simp [hcd] at hc

/-- A word that does not begin with the given character does not begin in front of it. -/
theorem suffix_of_suffix_append {a : Char} {word s t : Text} (ha : a ∉ s)
    (h : a :: word <:+ s ++ t) : a :: word <:+ t := by
  induction s with
  | nil => exact h
  | cons c s ih =>
    have hne : a ≠ c ∧ a ∉ s := by simpa using ha
    rcases List.suffix_cons_iff.1 h with h | h
    · exact absurd (List.cons.inj h).1 hne.1
    · exact ih hne.2 h

theorem isPrefixOf_append_cons {word s t : Text} {c : Char} (hc : c ∉ word) :
    word.isPrefixOf (s ++ c :: t) = word.isPrefixOf s := by
  rw [Bool.eq_iff_iff, List.isPrefixOf_iff_prefix, List.isPrefixOf_iff_prefix]
  exact prefix_append_cons_iff hc

/-! ## Characters of a line across a seam -/

theorem line_append_of_mem {s : Text} (h : '\n' ∈ s) (t : Text) : line (s ++ t) = line s := by
  obtain ⟨l, r, hs, hl⟩ := List.eq_append_cons_of_mem h
  have hall : ∀ c ∈ l, (c != '\n') = true := by
    intro c hc
    have hne : c ≠ '\n' := fun heq => hl (heq ▸ hc)
    simpa using hne
  rw [hs, List.append_assoc, line, line, List.takeWhile_append_of_pos hall,
    List.takeWhile_append_of_pos hall]
  rfl

theorem line_append_of_not_mem {s : Text} (h : '\n' ∉ s) (t : Text) :
    line (s ++ t) = s ++ line t := by
  have hall : ∀ c ∈ s, (c != '\n') = true := by
    intro c hc
    have hne : c ≠ '\n' := fun heq => h (heq ▸ hc)
    simpa using hne
  rw [line, line, List.takeWhile_append_of_pos hall]

theorem line_of_not_mem {s : Text} (h : '\n' ∉ s) : line s = s := by
  have := line_append_of_not_mem h []
  simpa [line] using this

theorem indexOf?_singleton_eq_none {mark : Char} {s : Text} (h : mark ∉ s) :
    indexOf? [mark] s = none := by
  rw [indexOf?_eq_none_iff]
  intro i _ hpre
  have hmem : mark ∈ s.drop i := hpre.subset (List.mem_singleton_self mark)
  exact h (List.mem_of_mem_drop hmem)

/-- The first copy of a character has no other copy before it. -/
theorem indexOf?_append_cons {mark : Char} {front : Text} (hfront : mark ∉ front) (rest : Text) :
    indexOf? [mark] (front ++ mark :: rest) = some front.length := by
  refine indexOf?_eq_some_iff.2 ⟨by simp, ?_, fun j hj hmark => ?_⟩
  · rw [List.drop_left]
    exact ⟨rest, rfl⟩
  · rw [List.drop_append_of_le_length (Nat.le_of_lt hj), List.drop_eq_getElem_cons hj] at hmark
    have hsame : mark = front[j] := (List.cons_prefix_cons.1 hmark).1
    exact hfront (hsame ▸ List.getElem_mem hj)

theorem indexOf?_singleton_eq_some_iff {mark : Char} {s : Text} {i : Nat} :
    indexOf? [mark] s = some i ↔
      ∃ front rest, s = front ++ mark :: rest ∧ mark ∉ front ∧ front.length = i := by
  constructor
  · intro h
    have hmem : mark ∈ s := by
      by_contra hnot
      rw [indexOf?_singleton_eq_none hnot] at h
      cases h
    obtain ⟨front, rest, rfl, hfront⟩ := List.eq_append_cons_of_mem hmem
    rw [indexOf?_append_cons hfront] at h
    exact ⟨front, rest, rfl, hfront, Option.some.inj h⟩
  · intro h
    obtain ⟨front, rest, rfl, hfront, rfl⟩ := h
    exact indexOf?_append_cons hfront rest

/-- The last copy of a character has no other copy behind it. -/
theorem lastIndexOf?_eq_some_iff_append {mark : Char} {s : Text} {i : Nat} :
    lastIndexOf? mark s = some i ↔
      ∃ front rest, s = front ++ mark :: rest ∧ mark ∉ rest ∧ front.length = i := by
  rw [lastIndexOf?_eq_some_iff]
  constructor
  · intro h
    obtain ⟨hi, hafter⟩ := h
    obtain ⟨hlt, hget⟩ := List.getElem?_eq_some_iff.1 hi
    refine ⟨s.take i, s.drop (i + 1), ?_, hafter, ?_⟩
    · rw [← hget, List.getElem_cons_drop, List.take_append_drop]
    · rw [List.length_take, Nat.min_eq_left (Nat.le_of_lt hlt)]
  · intro h
    obtain ⟨front, rest, rfl, hrest, rfl⟩ := h
    refine ⟨by simp, ?_⟩
    rw [List.drop_append, List.drop_eq_nil_of_le (by omega), Nat.add_sub_cancel_left]
    exact hrest

theorem indexOf?_append_of_not_mem {mark : Char} {t : Text} (h : mark ∉ t) (s : Text) :
    indexOf? [mark] (s ++ t) = indexOf? [mark] s := by
  induction s with
  | nil =>
    rw [List.nil_append, indexOf?_singleton_eq_none h]
    rfl
  | cons c s ih =>
    have hhere : [mark].isPrefixOf (c :: (s ++ t)) = [mark].isPrefixOf (c :: s) := rfl
    rw [List.cons_append, indexOf?, indexOf?, ih, hhere]

theorem lastIndexOf?_append_of_not_mem {mark : Char} {t : Text} (h : mark ∉ t) (s : Text) :
    lastIndexOf? mark (s ++ t) = lastIndexOf? mark s := by
  induction s with
  | nil => exact lastIndexOf?_eq_none_iff.2 h
  | cons c s ih => rw [List.cons_append, lastIndexOf?, lastIndexOf?, ih]

theorem indexOf?_line_append {mark : Char} {tail : Text} (h : mark ∉ line tail) (s : Text) :
    indexOf? [mark] (line (s ++ tail)) = indexOf? [mark] (line s) := by
  by_cases hs : '\n' ∈ s
  · rw [line_append_of_mem hs]
  · rw [line_append_of_not_mem hs, line_of_not_mem hs, indexOf?_append_of_not_mem h]

theorem lastIndexOf?_line_append {mark : Char} {tail : Text} (h : mark ∉ line tail) (s : Text) :
    lastIndexOf? mark (line (s ++ tail)) = lastIndexOf? mark (line s) := by
  by_cases hs : '\n' ∈ s
  · rw [line_append_of_mem hs]
  · rw [line_append_of_not_mem hs, line_of_not_mem hs, lastIndexOf?_append_of_not_mem h]

/-! ## Texts out of reach -/

/-- A text that begins with white space and closes no parenthesis on its first line. -/
structure OutOfReach (tail : Text) : Prop where
  head : ∃ c t, tail = c :: t ∧ TraitDoc.isBlank c = true
  noParen : ')' ∉ line tail

end Text

namespace Plumbing

/-! ## Rules for marks -/

/-- What the rules for marks have in common: they look for a mark and are blind to what is out of reach. -/
structure MarkRule (mark : Text) (rule : StretchRule) : Prop where
  fits : rule.Fits
  fires : ∀ b s, rule b s ≠ 0 → mark <+: s
  blind : ∀ b s tail, tail.OutOfReach → rule b (s ++ tail) = rule b s

theorem prefix_of_standsWhole {mark s : Text} (h : standsWhole mark s = true) : mark <+: s := by
  rw [standsWhole, Bool.and_eq_true] at h
  exact List.isPrefixOf_iff_prefix.1 h.1

/-- A mark and what follows it up to a place on its line lie in the text. -/
private theorem removed_fits {mark s : Text} {i : Nat} (h : mark <+: s)
    (hi : i + 1 ≤ (Text.line (s.drop mark.length)).length) : mark.length + i + 1 ≤ s.length := by
  have hmark := h.length_le
  have hline := (Text.line_isPrefix (s.drop mark.length)).length_le
  rw [List.length_drop] at hline
  omega

section

variable {mark : Text} (hmark : ∀ c ∈ mark, isBlank c = false)

include hmark

/-- A mark without white space stands before what is out of reach or not at all. -/
theorem isPrefixOf_append_of_outOfReach {tail : Text} (h : tail.OutOfReach) (s : Text) :
    mark.isPrefixOf (s ++ tail) = mark.isPrefixOf s := by
  obtain ⟨c, t, rfl, hc⟩ := h.head
  have hmem : c ∉ mark := by
    intro hin
    rw [hmark c hin] at hc
    cases hc
  exact Text.isPrefixOf_append_cons hmem

theorem standsWhole_append {tail : Text} (h : tail.OutOfReach) (s : Text) :
    standsWhole mark (s ++ tail) = standsWhole mark s := by
  rw [standsWhole, standsWhole, isPrefixOf_append_of_outOfReach hmark h]
  cases hp : mark.isPrefixOf s with
  | false => rfl
  | true =>
    have hle : mark.length ≤ s.length := (List.isPrefixOf_iff_prefix.1 hp).length_le
    obtain ⟨c, t, rfl, hc⟩ := h.head
    rw [List.drop_append_of_le_length hle]
    -- at the seam itself a blank stands where the text ended before: neither is a word character
    cases s.drop mark.length with
    | nil => simp [isBoundary, isWord_eq_false_of_isBlank hc]
    | cons d r => rfl

theorem upToFirst_markRule : MarkRule mark (upToFirst mark) where
  fits := by
    intro b s
    unfold upToFirst
    split
    · rename_i hp
      split
      · rename_i i hi
        have hfit := Text.indexOf?_add_length_le hi
        exact removed_fits (List.isPrefixOf_iff_prefix.1 hp) hfit
      · exact Nat.zero_le _
    · exact Nat.zero_le _
  fires := by
    intro b s h
    unfold upToFirst at h
    split at h
    · rename_i hp
      exact List.isPrefixOf_iff_prefix.1 hp
    · exact absurd rfl h
  blind := by
    intro b s tail htail
    unfold upToFirst
    rw [isPrefixOf_append_of_outOfReach hmark htail]
    split
    · rename_i hp
      have hle := (List.isPrefixOf_iff_prefix.1 hp).length_le
      rw [List.drop_append_of_le_length hle, Text.indexOf?_line_append htail.noParen]
    · rfl

theorem upToLast_markRule : MarkRule mark (upToLast mark) where
  fits := by
    intro b s
    unfold upToLast
    split
    · rename_i hp
      split
      · rename_i i hi
        have hfit := (List.getElem?_eq_some_iff.1 (Text.lastIndexOf?_eq_some_iff.1 hi).1).1
        exact removed_fits (prefix_of_standsWhole hp) hfit
      · exact Nat.zero_le _
    · exact Nat.zero_le _
  fires := by
    intro b s h
    unfold upToLast at h
    split at h
    · rename_i hp
      exact prefix_of_standsWhole hp
    · exact absurd rfl h
  blind := by
    intro b s tail htail
    unfold upToLast
    rw [standsWhole_append hmark htail]
    split
    · rename_i hp
      have hle := (prefix_of_standsWhole hp).length_le
      rw [List.drop_append_of_le_length hle, Text.lastIndexOf?_line_append htail.noParen]
    · rfl

theorem markAlone_markRule : MarkRule mark (markAlone mark) where
  fits := by
    intro b s
    unfold markAlone
    split
    · rename_i hp
      exact (prefix_of_standsWhole hp).length_le
    · exact Nat.zero_le _
  fires := by
    intro b s h
    unfold markAlone at h
    split at h
    · rename_i hp
      exact prefix_of_standsWhole hp
    · exact absurd rfl h
  blind := by
    intro b s tail htail
    unfold markAlone
    rw [standsWhole_append hmark htail]

end

/-! ### The marks -/

/-- Whether a word holds no blank can be evaluated. -/
theorem isBlank_eq_false_of_all {word : Text} (h : word.all (fun c => !isBlank c) = true) :
    ∀ c ∈ word, isBlank c = false := by
  intro c hc
  simpa using List.all_eq_true.1 h c hc

/-- A word that is no part of the declaring keyword, whatever white space there is. -/
structure IsMark (mark : Text) : Prop where
  noBlank : ∀ c ∈ mark, isBlank c = false
  begins : ∃ c rest, mark = '@' :: c :: rest ∧ c ≠ 'i'

theorem isMark_retention : IsMark retention :=
  ⟨isBlank_eq_false_of_all (by decide), 'R', _, rfl, by decide⟩

theorem isMark_target : IsMark target :=
  ⟨isBlank_eq_false_of_all (by decide), 'T', _, rfl, by decide⟩

theorem isMark_tag : IsMark tag :=
  ⟨isBlank_eq_false_of_all (by decide), 'T', _, rfl, by decide⟩

theorem isMark_inherited : IsMark inherited :=
  ⟨isBlank_eq_false_of_all (by decide), 'I', _, rfl, by decide⟩

/-- The first five rules are rules for marks. -/
theorem markRule_of_mem {rule : StretchRule} (h : rule ∈ rules.take 5) :
    ∃ mark, IsMark mark ∧ MarkRule mark rule := by
  have hcases : rule = upToFirst retention ∨ rule = upToFirst target ∨ rule = upToLast tag ∨
      rule = markAlone tag ∨ rule = markAlone inherited := by
    simpa [rules] using h
  rcases hcases with rfl | rfl | rfl | rfl | rfl
  · exact ⟨retention, isMark_retention, upToFirst_markRule isMark_retention.noBlank⟩
  · exact ⟨target, isMark_target, upToFirst_markRule isMark_target.noBlank⟩
  · exact ⟨tag, isMark_tag, upToLast_markRule isMark_tag.noBlank⟩
  · exact ⟨tag, isMark_tag, markAlone_markRule isMark_tag.noBlank⟩
  · exact ⟨inherited, isMark_inherited, markAlone_markRule isMark_inherited.noBlank⟩

theorem IsMark.not_prefix_of_not_mem {mark s t : Text} (hmark : IsMark mark) (hs : '@' ∉ s)
    (ht : t <:+ s) : ¬ mark <+: t := by
  intro hp
  obtain ⟨c, more, rfl, -⟩ := hmark.begins
  exact hs (ht.subset (hp.subset List.mem_cons_self))

/-- No mark stands in a text whose one `@` begins the declaring keyword. -/
theorem IsMark.not_prefix_of_suffix {mark before rest t : Text} (hmark : IsMark mark)
    (hbefore : '@' ∉ before) (hrest : '@' ∉ rest) (ht : t <:+ before ++ (keyword ++ rest)) :
    ¬ mark <+: t := by
  intro hp
  obtain ⟨c, more, rfl, hc⟩ := hmark.begins
  obtain ⟨u, rfl⟩ := hp
  have hat : '@' :: (c :: more ++ u) <:+ keyword ++ rest := Text.suffix_of_suffix_append hbefore ht
  rcases List.suffix_cons_iff.1 hat with h | h
  · exact hc (List.cons.inj (List.cons.inj h).2).1
  · have hin : '@' ∈ "interface".toList ++ rest := h.subset List.mem_cons_self
    rcases List.mem_append.1 hin with hin | hin
    · exact absurd hin (by decide)
    · exact hrest hin

/-! ## The declaring keyword -/

/-- What the rule for the declaring keyword removes, with `n` spaces in it. -/
def publicKeyword (n : Nat) : Text := visibility ++ List.replicate n ' ' ++ keyword

theorem publicKeyword_eq_cons (n : Nat) :
    publicKeyword n = 'p' :: ("ublic".toList ++ List.replicate n ' ' ++ keyword) := rfl

theorem length_publicKeyword (n : Nat) :
    (publicKeyword n).length = visibility.length + n + keyword.length := by
  rw [publicKeyword, List.length_append, List.length_append, List.length_replicate]

/-- The rule removes a word where that stands. -/
theorem declaringKeyword_eq_length {n : Nat} {s : Text} (h : publicKeyword n <+: s) (b : Bool) :
    declaringKeyword b s = (publicKeyword n).length := by
  obtain ⟨t, rfl⟩ := h
  have hvis : visibility.isPrefixOf (publicKeyword n ++ t) = true := by
    rw [List.isPrefixOf_iff_prefix, publicKeyword, List.append_assoc, List.append_assoc]
    exact List.prefix_append _ _
  have hdrop : (publicKeyword n ++ t).drop visibility.length =
      List.replicate n ' ' ++ (keyword ++ t) := by
    rw [publicKeyword, List.append_assoc, List.append_assoc, List.drop_left]
  have hspaces : ((publicKeyword n ++ t).drop visibility.length).takeWhile (· == ' ') =
      List.replicate n ' ' := by
    rw [hdrop, List.takeWhile_append_of_pos (by simp)]
    have hstop : (keyword ++ t).takeWhile (· == ' ') = [] := rfl
    rw [hstop, List.append_nil]
  have hkey : keyword.isPrefixOf ((publicKeyword n ++ t).drop (visibility.length + n)) = true := by
    rw [List.isPrefixOf_iff_prefix, ← List.drop_drop, hdrop]
    have hlen : (List.replicate n ' ').length = n := List.length_replicate
    rw [List.drop_append_of_le_length (Nat.le_of_eq hlen.symm), List.drop_of_length_le
      (Nat.le_of_eq hlen), List.nil_append]
    exact List.prefix_append _ _
  unfold declaringKeyword
  rw [if_pos hvis, hspaces, List.length_replicate, if_pos hkey, length_publicKeyword]

/-- Where the rule removes anything, it removes such a word. -/
theorem exists_publicKeyword_of_ne_zero {b : Bool} {s : Text} (h : declaringKeyword b s ≠ 0) :
    ∃ n, publicKeyword n <+: s := by
  unfold declaringKeyword at h
  split at h
  · rename_i hvis
    obtain ⟨r, rfl⟩ := List.isPrefixOf_iff_prefix.1 hvis
    rw [List.drop_left] at h
    generalize hn : (r.takeWhile (· == ' ')).length = n at h
    have hspaces : r.takeWhile (· == ' ') = List.replicate n ' ' := by
      refine List.eq_replicate_iff.2 ⟨hn, fun c hc => ?_⟩
      have := List.all_eq_true.1 (List.all_takeWhile (p := (· == ' ')) (l := r)) c hc
      simpa using this
    have hr : r = List.replicate n ' ' ++ r.dropWhile (· == ' ') := by
      rw [← hspaces, List.takeWhile_append_dropWhile]
    have hdrop : (visibility ++ r).drop (visibility.length + n) = r.dropWhile (· == ' ') := by
      rw [← List.drop_drop, List.drop_left]
      conv => lhs; rw [hr]
      exact List.drop_left' List.length_replicate
    refine ⟨n, ?_⟩
    dsimp only at h
    split at h
    · rename_i hkey
      rw [hdrop] at hkey
      rw [publicKeyword, List.append_assoc, List.prefix_append_right_inj, hr,
        List.prefix_append_right_inj]
      exact List.isPrefixOf_iff_prefix.1 hkey
    · exact absurd rfl h
  · exact absurd rfl h

theorem declaringKeyword_fits : declaringKeyword.Fits := by
  intro b s
  by_cases h : declaringKeyword b s = 0
  · rw [h]
    exact Nat.zero_le _
  · obtain ⟨n, hn⟩ := exists_publicKeyword_of_ne_zero h
    rw [declaringKeyword_eq_length hn]
    exact hn.length_le

theorem declaringKeyword_unanchored : declaringKeyword.Unanchored := fun _ _ _ => rfl

/-- The rule is blind to a text into which no word of it goes on. -/
theorem declaringKeyword_append {s tail : Text}
    (h : ∀ n c rest, publicKeyword n = s ++ c :: rest → ¬ c :: rest <+: tail) (b : Bool) :
    declaringKeyword b (s ++ tail) = declaringKeyword b s := by
  by_cases hs : declaringKeyword b s = 0
  · rw [hs]
    by_cases hst : declaringKeyword b (s ++ tail) = 0
    · exact hst
    · obtain ⟨n, hn⟩ := exists_publicKeyword_of_ne_zero hst
      rcases Text.prefix_append_cases hn with hn | ⟨c, rest, hword, hrest⟩
      · rw [declaringKeyword_eq_length hn, length_publicKeyword] at hs
        exact absurd hs (by simp [visibility])
      · exact absurd hrest (h n c rest hword)
  · obtain ⟨n, hn⟩ := exists_publicKeyword_of_ne_zero hs
    rw [declaringKeyword_eq_length hn, declaringKeyword_eq_length (hn.trans (List.prefix_append s _))]

theorem not_mem_publicKeyword {c : Char} (hv : c ∉ visibility) (hs : c ≠ ' ') (hk : c ∉ keyword)
    (n : Nat) : c ∉ publicKeyword n := by
  have hspaces : c ∉ List.replicate n ' ' := fun h => hs (List.eq_of_mem_replicate h)
  rw [publicKeyword, List.mem_append, List.mem_append]
  intro h
  rcases h with (h | h) | h
  · exact hv h
  · exact hspaces h
  · exact hk h

theorem declaringKeyword_keepsToLine : declaringKeyword.KeepsToLine where
  fits := declaringKeyword_fits
  blind := by
    intro b s t
    refine declaringKeyword_append (fun n c rest hword hc => ?_) b
    have hfeed : '\n' ∉ publicKeyword n :=
      not_mem_publicKeyword (by decide) (by decide) (by decide) n
    rw [hword, (List.cons_prefix_cons.1 hc).1] at hfeed
    simp at hfeed

/-- A text without `@` holds nothing for the rule to remove. -/
theorem removeAll_declaringKeyword_eq_self {s : Text} (h : '@' ∉ s) :
    Text.removeAll declaringKeyword s = s := by
  refine Text.removeAll_eq_self fun b t ht _ => ?_
  by_cases hzero : declaringKeyword b t = 0
  · exact hzero
  · obtain ⟨n, hn⟩ := exists_publicKeyword_of_ne_zero hzero
    have hat : '@' ∈ publicKeyword n := List.mem_append_right _ (by decide)
    exact absurd (ht.subset (hn.subset hat)) h

/-- Behind the visibility and spaces the keyword goes, and they go with it. -/
theorem removeAll_declaringKeyword_of_public (s : Text) (n : Nat) {tail : Text}
    (htail : '@' ∉ tail) :
    Text.removeAll declaringKeyword (s ++ (publicKeyword n ++ tail)) =
      Text.removeAll declaringKeyword s ++ tail := by
  have hblind : ∀ b t, t <:+ s → t ≠ [] →
      declaringKeyword b (t ++ (publicKeyword n ++ tail)) = declaringKeyword b t := by
    intro b t _ hne
    refine declaringKeyword_append (fun m c rest hword hc => ?_) b
    -- the word would have to begin in `t` and begin again at the seam
    have hp : c = 'p' := by
      rw [publicKeyword_eq_cons, List.cons_append] at hc
      exact (List.cons_prefix_cons.1 hc).1
    have htwice : 'p' ∉ "ublic".toList ++ List.replicate m ' ' ++ keyword := by
      have hspaces : 'p' ∉ List.replicate m ' ' := fun h =>
        absurd (List.eq_of_mem_replicate h) (by decide)
      simp only [List.mem_append, not_or]
      exact ⟨⟨by decide, hspaces⟩, by decide⟩
    cases t with
    | nil => exact absurd rfl hne
    | cons d t =>
      rw [publicKeyword_eq_cons, List.cons_append] at hword
      rw [(List.cons.inj hword).2, hp] at htwice
      simp at htwice
  have hremoved : ∀ b, Text.removeFrom declaringKeyword 0 b (publicKeyword n ++ tail) = tail := by
    intro b
    rw [Text.removeFrom_of_removed (declaringKeyword_eq_length (List.prefix_append _ tail) b)
      (by rw [publicKeyword_eq_cons]; exact List.cons_ne_nil _ _)]
    rw [Text.removeFrom_of_unanchored declaringKeyword_unanchored 0 _ true]
    exact removeAll_declaringKeyword_eq_self htail
  rw [Text.removeAll_append declaringKeyword_fits hblind, hremoved]

/-- In a text that ends otherwise the keyword behind it stays. -/
theorem removeAll_declaringKeyword_of_not_public {s : Text}
    (hs : ∀ front n, s ≠ front ++ visibility ++ List.replicate n ' ') {tail : Text}
    (htail : '@' ∉ tail) :
    Text.removeAll declaringKeyword (s ++ (keyword ++ tail)) =
      Text.removeAll declaringKeyword s ++ (keyword ++ tail) := by
  refine Text.removeAll_append_of_untouched declaringKeyword_fits ?_ ?_
  · intro b t ht _
    refine declaringKeyword_append (fun n c rest hword hc => ?_) b
    -- the word would go on with the `@` of the keyword, so `t` is all that comes before it
    have hat : c = '@' := (List.cons_prefix_cons.1 hc).1
    rw [hat, publicKeyword] at hword
    have hfront : '@' ∉ visibility ++ List.replicate n ' ' := by
      have hspaces : '@' ∉ List.replicate n ' ' := fun h =>
        absurd (List.eq_of_mem_replicate h) (by decide)
      rw [List.mem_append, not_or]
      exact ⟨by decide, hspaces⟩
    have ht' : t = visibility ++ List.replicate n ' ' := by
      rcases List.append_eq_append_iff.1 hword with ⟨mid, hmid, hkey⟩ | ⟨mid, hmid, hkey⟩
      · cases mid with
        | nil => rw [hmid, List.append_nil]
        | cons d mid =>
          have hrest : '@' ∈ "interface".toList := by
            have htail : "interface".toList = mid ++ '@' :: rest := (List.cons.inj hkey).2
            rw [htail]
            exact List.mem_append_right _ List.mem_cons_self
          exact absurd hrest (by decide)
      · cases mid with
        | nil => rw [hmid, List.append_nil]
        | cons d mid =>
          have hd : '@' = d := (List.cons.inj hkey).1
          rw [hmid, hd] at hfront
          simp at hfront
    obtain ⟨front, hfront⟩ := ht
    rw [ht', ← List.append_assoc] at hfront
    exact hs front n hfront.symm
  · intro b t ht _
    by_cases hzero : declaringKeyword b t = 0
    · exact hzero
    · obtain ⟨n, u, rfl⟩ := exists_publicKeyword_of_ne_zero hzero
      rw [publicKeyword_eq_cons, List.cons_append] at ht
      have hin := Text.suffix_of_suffix_append (by decide) ht
      have hat : '@' ∈ tail := hin.subset (by
        refine List.mem_cons_of_mem _ (List.mem_append_left _ (List.mem_append_right _ ?_))
        decide)
      exact absurd hat htail

theorem removeAll_declaringKeyword_keyword {s : Text}
    (hs : ∀ front n, s ≠ front ++ visibility ++ List.replicate n ' ') :
    Text.removeAll declaringKeyword (s ++ keyword) = Text.removeAll declaringKeyword s ++ keyword := by
  have hkeep := removeAll_declaringKeyword_of_not_public hs (show '@' ∉ [] by simp)
  rwa [List.append_nil] at hkeep

/-- The pass stops at the keyword: it is removed or not, and what follows stays. -/
theorem removeAll_declaringKeyword_append {tail : Text} (htail : '@' ∉ tail) (s : Text) :
    Text.removeAll declaringKeyword (s ++ (keyword ++ tail)) =
      Text.removeAll declaringKeyword (s ++ keyword) ++ tail := by
  by_cases hs : ∃ front n, s = front ++ visibility ++ List.replicate n ' '
  · obtain ⟨front, n, rfl⟩ := hs
    have hpublic : ∀ rest : Text, '@' ∉ rest →
        Text.removeAll declaringKeyword
          (front ++ visibility ++ List.replicate n ' ' ++ (keyword ++ rest)) =
        Text.removeAll declaringKeyword front ++ rest := by
      intro rest hrest
      rw [← removeAll_declaringKeyword_of_public front n hrest, publicKeyword]
      simp only [List.append_assoc]
    have hnil := hpublic [] (by simp)
    rw [List.append_nil, List.append_nil] at hnil
    rw [hpublic tail htail, hnil]
  · have hnot : ∀ front n, s ≠ front ++ visibility ++ List.replicate n ' ' :=
      fun front n h => hs ⟨front, n, h⟩
    rw [removeAll_declaringKeyword_of_not_public hnot htail, removeAll_declaringKeyword_keyword hnot,
      List.append_assoc]

/-! ## Import lines -/

theorem importLine_keepsToLine : importLine.KeepsToLine where
  fits := by
    intro b s
    unfold importLine
    split
    · exact (Text.line_isPrefix s).length_le
    · exact Nat.zero_le _
  blind := by
    intro b s t
    have hfeed : '\n' ∉ importWord := by decide
    have hline : Text.line (s ++ '\n' :: t) = Text.line s := by
      by_cases h : '\n' ∈ s
      · exact Text.line_append_of_mem h _
      · rw [Text.line_append_of_not_mem h, Text.line_of_not_mem h]
        simp [Text.line]
    unfold importLine
    rw [Text.isPrefixOf_append_cons hfeed, hline]

/-- Within a line no import begins. -/
theorem removeFrom_importLine_of_not_mem {l : Text} (h : '\n' ∉ l) :
    Text.removeFrom importLine 0 false l = l := by
  induction l with
  | nil => rfl
  | cons c l ih =>
    have hne : '\n' ≠ c ∧ '\n' ∉ l := by simpa using h
    have hc : (c == '\n') = false := by simpa using Ne.symm hne.1
    have hzero : importLine false (c :: l) = 0 := rfl
    rw [Text.removeFrom, hzero, hc]
    exact congrArg (c :: ·) (ih hne.2)

/-- A line that begins with the import word goes as a whole, and any other stays. -/
theorem removeAll_importLine_of_not_mem {l : Text} (h : '\n' ∉ l) :
    Text.removeAll importLine l = if importWord.isPrefixOf l then [] else l := by
  cases l with
  | nil => rfl
  | cons c l =>
    have hne : '\n' ≠ c ∧ '\n' ∉ l := by simpa using h
    have hc : (c == '\n') = false := by simpa using Ne.symm hne.1
    split
    · rename_i hp
      have hall : importLine true (c :: l ++ []) = (c :: l).length := by
        unfold importLine
        rw [List.append_nil, hp, Text.line_of_not_mem h]
        rfl
      have hgone := Text.removeFrom_of_removed hall (List.cons_ne_nil c l)
      rw [List.append_nil] at hgone
      exact hgone
    · rename_i hp
      have hzero : importLine true (c :: l) = 0 := by
        unfold importLine
        rw [Bool.true_and, if_neg hp]
      rw [Text.removeAll, Text.removeFrom, hzero, hc]
      exact congrArg (c :: ·) (removeFrom_importLine_of_not_mem hne.2)

theorem removeAll_importLine_append_lineFeed (l s : Text) :
    Text.removeAll importLine (l ++ '\n' :: s) =
      Text.removeAll importLine l ++ '\n' :: Text.removeAll importLine s :=
  Text.removeAll_append_lineFeed importLine_keepsToLine l s

/-- Where the last line is an import, nothing is left of it. -/
theorem getLast?_removeAll_importLine {s : Text}
    (h : importWord <+: Text.afterLast '\n' s) {c : Char}
    (hc : (Text.removeAll importLine s).getLast? = some c) : c = '\n' := by
  induction s using Text.line_induction generalizing c with
  | line l hl =>
    rw [Text.afterLast_of_not_mem hl] at h
    rw [removeAll_importLine_of_not_mem hl, if_pos (List.isPrefixOf_iff_prefix.2 h)] at hc
    cases hc
  | feed l s hl ih =>
    rw [Text.afterLast_append_cons] at h
    rw [removeAll_importLine_append_lineFeed, List.getLast?_append, List.getLast?_cons] at hc
    cases hlast : (Text.removeAll importLine s).getLast? with
    | none =>
      rw [hlast] at hc
      exact (Option.some.inj hc).symm
    | some d =>
      have hd : d = c := by
        rw [hlast] at hc
        exact Option.some.inj hc
      exact ih h (by rw [hlast, hd])

/-- Where the last line is no import, what ends it stays. -/
theorem removeAll_importLine_append_cons {c : Char} {word : Text} (hword : '\n' ∉ word) {s : Text}
    (h : ¬ importWord <+: Text.afterLast '\n' (s ++ c :: word)) :
    Text.removeAll importLine (s ++ c :: word) = Text.removeAll importLine s ++ c :: word := by
  have hkeep : ∀ l : Text, '\n' ∉ l → ¬ importWord <+: l → Text.removeAll importLine l = l := by
    intro l hl hp
    rw [removeAll_importLine_of_not_mem hl, if_neg (by rwa [List.isPrefixOf_iff_prefix])]
  induction s using Text.line_induction with
  | line l hl =>
    by_cases hfeed : c = '\n'
    · subst hfeed
      rw [Text.afterLast_append_cons, Text.afterLast_of_not_mem hword] at h
      rw [removeAll_importLine_append_lineFeed, hkeep word hword h]
    · have hline : '\n' ∉ l ++ c :: word := by
        rw [List.mem_append, List.mem_cons, not_or, not_or]
        exact ⟨hl, Ne.symm hfeed, hword⟩
      rw [Text.afterLast_of_not_mem hline] at h
      have hl' : ¬ importWord <+: l := fun hp => h (hp.trans (List.prefix_append l _))
      rw [hkeep _ hline h, hkeep l hl hl']
  | feed l s hl ih =>
    rw [List.append_assoc, List.cons_append, Text.afterLast_append_cons] at h
    rw [List.append_assoc, List.cons_append, removeAll_importLine_append_lineFeed, ih h,
      removeAll_importLine_append_lineFeed, List.append_assoc, List.cons_append]

end Plumbing

end TraitDoc
