import TraitDoc.Proofs.CommentsKept
/-!
# Where the declaration stands

The header of a source ends in the declaration that was found first behind the
first comment. The search for it does not look for comments, so what it finds
may stand in one of the later comments. Then the header is cut in the middle of
that comment, and what the cut leaves of the comment is taken for code.

A declaration holds neither a slash nor a star, so no comment begins or ends in
it: it stands outside of every comment, or within one. Which of the two is the
case can be seen at the cut alone. A comment reaches across the cut exactly if
an opener is left behind the last comment before the cut, and a closer follows
behind the cut.

## Main definitions

* `DocComment.Outside`, `DocComment.Within` — how a stretch stands to the comments.
* `DocComment.Across` — a comment reaches across a cut.
* `Declares` — a stretch that holds a declaration.

## Main statements

* `DocComment.outside_or_within` — a stretch without slash is in a comment or not.
* `DocComment.across_iff` — when a comment reaches across a cut.
* `Declaration.declares_outside_iff` — when the declaration of a header stands
  outside of every comment.
* `Declaration.declared_within` — it may stand within one.
-/

namespace TraitDoc

/-! ## Words in a text -/

namespace Text

theorem isInfix_iff {word s : Text} :
    word <:+: s ↔ ∃ i, i + word.length ≤ s.length ∧ word <+: s.drop i := by
  constructor
  · rintro ⟨front, rest, rfl⟩
    refine ⟨front.length, by simp, ?_⟩
    rw [List.append_assoc, List.drop_left]
    exact List.prefix_append _ _
  · intro h
    obtain ⟨i, -, hprefix⟩ := h
    exact hprefix.isInfix.trans (List.drop_suffix i s).isInfix

/-- A word that stands somewhere is found, there or before. -/
theorem exists_indexOf?_le {word s : Text} {i : Nat} (hi : i ≤ s.length)
    (h : word <+: s.drop i) : ∃ k ≤ i, indexOf? word s = some k := by
  cases hfind : indexOf? word s with
  | none => exact absurd h (indexOf?_eq_none_iff.1 hfind i hi)
  | some k =>
    refine ⟨k, ?_, rfl⟩
    by_contra hlt
    exact (indexOf?_eq_some_iff.1 hfind).2.2 i (by omega) h

theorem slice_eq_drop_take (s : Text) (d : Span) : s.slice d = (s.take d.stop).drop d.start :=
  List.drop_take.symm

/-- A text up to the end of a stretch ends in a character of the stretch. -/
theorem getLast?_take_of_not_mem {s : Text} {d : Span} {c : Char} (hne : s.slice d ≠ [])
    (hc : c ∉ s.slice d) : (s.take d.stop).getLast? ≠ some c := by
  intro hlast
  rw [slice_eq_drop_take] at hne hc
  refine hc (List.mem_of_getLast? ?_)
  rw [List.getLast?_drop, if_neg, hlast]
  exact fun hle => hne (List.drop_eq_nil_of_le hle)

end Text

namespace DocComment

/-! ## In a comment or not -/

/-- The stretch stands outside of every comment of the text. -/
def Outside (s : Text) (d : Span) : Prop := ∀ p ∈ spans s, p.stop ≤ d.start ∨ d.stop ≤ p.start

/-- The stretch stands within a comment of the text, behind its beginning and before its end. -/
def Within (s : Text) (d : Span) : Prop := ∃ p ∈ spans s, p.start < d.start ∧ d.stop < p.stop

/-- A comment begins with the opener. -/
theorem mem_spans_opener {s : Text} {p : Span} (h : p ∈ spans s) : opener <+: s.drop p.start := by
  obtain ⟨offset, q, hq, rfl⟩ := exists_first?_of_mem_spans h
  obtain ⟨gap, hstart, -, -⟩ := first?_eq_some_iff.1 hq
  have hopen := (Text.indexOf?_eq_some_iff.1 hstart).2.1
  rw [List.drop_drop] at hopen
  exact hopen

theorem mem_slice_of_getElem? {s : Text} {d : Span} {i : Nat} {c : Char} (h : s[i]? = some c)
    (hlo : d.start ≤ i) (hhi : i < d.stop) : c ∈ s.slice d := by
  have hget : (s.slice d)[i - d.start]? = some c := by
    rw [Text.slice, List.getElem?_take_of_lt (by omega), List.getElem?_drop,
      Nat.add_sub_cancel' hlo, h]
  exact List.mem_of_getElem? hget

/-- The characters of a word that stands at an offset. -/
theorem getElem?_of_prefix_drop {word s : Text} {i k : Nat} {c : Char} (h : word <+: s.drop i)
    (hc : word[k]? = some c) : s[i + k]? = some c := by
  obtain ⟨rest, hrest⟩ := h
  rw [← List.getElem?_drop, ← hrest, List.getElem?_append_left, hc]
  exact (List.getElem?_eq_some_iff.1 hc).1

/-- A stretch without slash that reaches into a comment from the left begins in it. -/
private theorem start_lt_of_slash {s : Text} {d p : Span} (hp : p ∈ spans s)
    (hslash : '/' ∉ s.slice d) (hreach : p.start < d.stop) : p.start < d.start := by
  have hfirst : s[p.start + 0]? = some '/' := getElem?_of_prefix_drop (mem_spans_opener hp) rfl
  by_contra hge
  exact hslash (mem_slice_of_getElem? hfirst (by omega) (by omega))

/-- A stretch without slash that reaches into a comment from the right ends in it. -/
private theorem stop_lt_of_slash {s : Text} {d p : Span} (hp : p ∈ spans s)
    (hslash : '/' ∉ s.slice d) (hreach : d.start < p.stop) : d.stop < p.stop := by
  obtain ⟨hlen, -, hclose⟩ := mem_spans_closer hp
  have hlast : s[p.stop - 2 + 1]? = some '/' := getElem?_of_prefix_drop hclose rfl
  by_contra hge
  exact hslash (mem_slice_of_getElem? hlast (by omega) (by omega))

/-- A stretch without slash stands outside of every comment, or within one. -/
theorem outside_or_within {s : Text} {d : Span} (hslash : '/' ∉ s.slice d) :
    Outside s d ∨ Within s d := by
  by_cases hwithin : Within s d
  · exact .inr hwithin
  · refine .inl fun p hp => ?_
    by_contra hmeet
    rw [not_or, Nat.not_le, Nat.not_le] at hmeet
    exact hwithin ⟨p, hp, start_lt_of_slash hp hslash hmeet.2, stop_lt_of_slash hp hslash hmeet.1⟩

/-! ## Across a cut -/

/-- An opener with a closer behind it makes a comment, which begins there or before. -/
theorem exists_first?_of_opener {s : Text} {i k : Nat} (hopen : opener <+: s.drop i)
    (hclose : closer <+: s.drop k) (hik : i + 3 ≤ k) (hk : k ≤ s.length) :
    ∃ p, first? s = some p ∧ p.start ≤ i := by
  obtain ⟨start, hstart, hfind⟩ := Text.exists_indexOf?_le (by omega) hopen
  have hbehind : closer <+: (s.drop (start + 3)).drop (k - (start + 3)) := by
    rw [List.drop_drop, Nat.add_sub_cancel' (by omega)]
    exact hclose
  obtain ⟨gap, -, hgap⟩ :=
    Text.exists_indexOf?_le (by rw [List.length_drop]; omega) hbehind
  exact ⟨⟨start, start + 3 + gap + 2⟩, first?_eq_some_iff.2 ⟨gap, hfind, hgap, rfl⟩, hstart⟩

/-- The beginning of the text up to a cut holds an opener, and what is behind the cut a closer. -/
private theorem exists_of_infix {s : Text} {n : Nat} (hopen : opener <:+: s.take n)
    (hclose : closer <:+: s.drop n) : ∃ p, first? s = some p ∧ p.start + 3 ≤ n := by
  obtain ⟨i, hi, hopen⟩ := Text.isInfix_iff.1 hopen
  obtain ⟨k, hk, hclose⟩ := Text.isInfix_iff.1 hclose
  have hopenLen : opener.length = 3 := rfl
  rw [List.length_take] at hi
  rw [List.length_drop] at hk
  rw [List.drop_take, List.prefix_take_iff] at hopen
  rw [List.drop_drop] at hclose
  have hcloseLen : closer.length = 2 := rfl
  obtain ⟨p, hp, hstart⟩ := exists_first?_of_opener hopen.1 hclose (by omega) (by omega)
  exact ⟨p, hp, by omega⟩

/-- A comment reaches across a cut, its opener standing before the cut and its closer behind it. -/
def Across (s : Text) (n : Nat) : Prop := ∃ p ∈ spans s, p.start + 3 ≤ n ∧ n + 2 ≤ p.stop

/-- Where the first comment ends before the cut, the rest decides. -/
private theorem across_iff_of_le {s : Text} {p : Span} {n : Nat} (hs : first? s = some p)
    (hcut : p.stop ≤ n) : Across s n ↔ Across (s.drop p.stop) (n - p.stop) := by
  have hbounds := first?_bounds hs
  rw [Across, spans_of_some hs]
  constructor
  · rintro ⟨q, hq, hopen, hclose⟩
    rcases List.mem_cons.1 hq with rfl | hq
    · omega
    · obtain ⟨r, hr, rfl⟩ := List.mem_map.1 hq
      simp only [Span.shift] at hopen hclose
      exact ⟨r, hr, by omega, by omega⟩
  · rintro ⟨r, hr, hopen, hclose⟩
    refine ⟨r.shift p.stop, List.mem_cons_of_mem _ (List.mem_map_of_mem hr), ?_, ?_⟩
    · simp only [Span.shift]
      omega
    · simp only [Span.shift]
      omega

/-- Where the first comment ends behind the cut, only that one can reach across. -/
private theorem across_iff_of_lt {s : Text} {p : Span} {n : Nat} (hs : first? s = some p)
    (hcut : n < p.stop) : Across s n ↔ p.start + 3 ≤ n ∧ n + 2 ≤ p.stop := by
  rw [Across, spans_of_some hs]
  constructor
  · rintro ⟨q, hq, hopen, hclose⟩
    rcases List.mem_cons.1 hq with rfl | hq
    · exact ⟨hopen, hclose⟩
    · obtain ⟨r, hr, rfl⟩ := List.mem_map.1 hq
      simp only [Span.shift] at hopen
      omega
  · exact fun h => ⟨p, List.mem_cons_self, h⟩

/-- A cut that a comment reaches across has an opener before it and a closer behind it. -/
private theorem infix_of_across {s : Text} {p : Span} {n : Nat} (hp : p ∈ spans s)
    (hopen : p.start + 3 ≤ n) (hclose : n + 2 ≤ p.stop) :
    opener <:+: s.take n ∧ closer <:+: s.drop n := by
  obtain ⟨hlen, hfit, hcloser⟩ := mem_spans_closer hp
  have hopenLen : opener.length = 3 := rfl
  have hcloseLen : closer.length = 2 := rfl
  constructor
  · refine Text.isInfix_iff.2 ⟨p.start, ?_, ?_⟩
    · rw [List.length_take]
      omega
    · rw [List.drop_take, List.prefix_take_iff]
      exact ⟨mem_spans_opener hp, by omega⟩
  · refine Text.isInfix_iff.2 ⟨p.stop - 2 - n, ?_, ?_⟩
    · rw [List.length_drop]
      omega
    · rw [List.drop_drop, Nat.add_sub_cancel' (by omega)]
      exact hcloser

/-- A cut that parts a closer stands behind a star. -/
private theorem getLast?_take_of_parted {s : Text} {p : Span} {n : Nat} (hp : p ∈ spans s)
    (hn : n + 1 = p.stop) : (s.take n).getLast? = some '*' := by
  obtain ⟨hlen, hfit, hclose⟩ := mem_spans_closer hp
  have hstar : s[p.stop - 2 + 0]? = some '*' := getElem?_of_prefix_drop hclose rfl
  have hend : (s.take n).length = n := by
    rw [List.length_take]
    omega
  have hindex : p.stop - 2 + 0 = n - 1 := by omega
  rw [List.getLast?_eq_getElem?, hend, List.getElem?_take_of_lt (by omega), ← hindex]
  exact hstar

/--
A comment reaches across a cut exactly if the text before the cut leaves a
comment open and the text behind it holds a closer. The cut must not part a
closer, so the text before it must not end in a star.
-/
theorem across_iff {s : Text} {n : Nat} (hlast : (s.take n).getLast? ≠ some '*') :
    Across s n ↔ opener <:+: codeBehind (s.take n) ∧ closer <:+: s.drop n := by
  induction s using comment_induction generalizing n with
  | none s hs =>
    have htake : first? (s.take n) = none := by
      rw [first?_take, hs]
      rfl
    rw [Across, spans_of_none hs, codeBehind_of_none htake]
    constructor
    · rintro ⟨p, hp, -⟩
      cases hp
    · rintro ⟨hopen, hclose⟩
      obtain ⟨p, hp, -⟩ := exists_of_infix hopen hclose
      rw [hs] at hp
      cases hp
  | some s p hs ih =>
    have hmem : p ∈ spans s := by
      rw [spans_of_some hs]
      exact List.mem_cons_self
    by_cases hcut : p.stop ≤ n
    · have htake : first? (s.take n) = some p := by
        rw [first?_take, hs, Option.filter_some, if_pos (decide_eq_true hcut)]
      have hrest : ((s.drop p.stop).take (n - p.stop)).getLast? ≠ some '*' := by
        rw [← List.drop_take, List.getLast?_drop]
        split
        · simp
        · exact hlast
      have hdrop : s.drop n = (s.drop p.stop).drop (n - p.stop) := by
        rw [List.drop_drop, Nat.add_sub_cancel' hcut]
      rw [across_iff_of_le hs hcut, ih hrest, codeBehind_of_some htake, List.drop_take, hdrop]
    · have htake : first? (s.take n) = none := by
        rw [first?_take, hs, Option.filter_some, if_neg (by simpa using hcut)]
      rw [across_iff_of_lt hs (Nat.lt_of_not_le hcut), codeBehind_of_none htake]
      constructor
      · rintro ⟨hstart, hstop⟩
        exact infix_of_across hmem hstart hstop
      · rintro ⟨hopen, hclose⟩
        obtain ⟨q, hq, hstart⟩ := exists_of_infix hopen hclose
        obtain rfl := Option.some.inj (hs.symm.trans hq)
        refine ⟨hstart, ?_⟩
        by_contra hpart
        exact hlast (getLast?_take_of_parted hmem (by omega))

/-- A stretch without slash and star is within a comment exactly if one reaches across its end. -/
theorem within_iff_across {s : Text} {d : Span} (hd : d.start < d.stop)
    (hslash : '/' ∉ s.slice d) (hstar : '*' ∉ s.slice d) : Within s d ↔ Across s d.stop := by
  constructor
  · rintro ⟨p, hp, hstart, hstop⟩
    obtain ⟨hlen, -, hclose⟩ := mem_spans_closer hp
    have hopen := mem_spans_opener hp
    -- the stars of the opener stand before the stretch, that of the closer behind it
    have hsecond : s[p.start + 1]? = some '*' := getElem?_of_prefix_drop hopen rfl
    have hthird : s[p.start + 2]? = some '*' := getElem?_of_prefix_drop hopen rfl
    have hlast : s[p.stop - 2 + 0]? = some '*' := getElem?_of_prefix_drop hclose rfl
    refine ⟨p, hp, ?_, ?_⟩
    · by_contra hlt
      by_cases hnext : d.start = p.start + 1
      · exact hstar (mem_slice_of_getElem? hsecond (by omega) (by omega))
      · exact hstar (mem_slice_of_getElem? hthird (by omega) (by omega))
    · by_contra hlt
      exact hstar (mem_slice_of_getElem? hlast (by omega) (by omega))
  · rintro ⟨p, hp, hstart, hstop⟩
    exact ⟨p, hp, start_lt_of_slash hp hslash (by omega), by omega⟩

theorem not_outside_of_within {s : Text} {d : Span} (hd : d.start < d.stop) (h : Within s d) :
    ¬ Outside s d := by
  intro houtside
  obtain ⟨p, hp, hstart, hstop⟩ := h
  rcases houtside p hp with hle | hle
  · omega
  · omega

end DocComment

/-! ## The declaration of a header -/

open DocComment

/-- The stretch holds a declaration of `name`: the declaring keyword, white space, and the name. -/
def Declares (name source : Text) (d : Span) : Prop :=
  ∃ gap, gap ≠ [] ∧ (∀ c ∈ gap, isBlank c = true) ∧
    source.slice d = Plumbing.keyword ++ (gap ++ name)

theorem isWord_star : isWord '*' = false := by decide +kernel

/-- No comment begins or ends in a declaration. -/
theorem Declares.not_mem {name source : Text} {d : Span} (hname : name.IsWord)
    (h : Declares name source d) : '/' ∉ source.slice d ∧ '*' ∉ source.slice d := by
  obtain ⟨gap, -, hgap, hslice⟩ := h
  have hnone : ∀ c, c ∉ Plumbing.keyword → isBlank c = false → isWord c = false →
      c ∉ source.slice d := by
    intro c hkeyword hblank hword hc
    rw [hslice, List.mem_append, List.mem_append] at hc
    rcases hc with hc | hc | hc
    · exact hkeyword hc
    · rw [hgap c hc] at hblank
      cases hblank
    · exact hname.not_mem hword hc
  exact ⟨hnone _ (by decide) (by decide) isWord_slash, hnone _ (by decide) (by decide) isWord_star⟩

theorem Declares.slice_ne_nil {name source : Text} {d : Span} (h : Declares name source d) :
    source.slice d ≠ [] := by
  obtain ⟨gap, -, -, hslice⟩ := h
  rw [hslice]
  exact List.append_ne_nil_of_left_ne_nil (by decide) _

theorem Declares.start_lt_stop {name source : Text} {d : Span} (h : Declares name source d) :
    d.start < d.stop := by
  by_contra hge
  refine h.slice_ne_nil ?_
  rw [Text.slice, Nat.sub_eq_zero_of_le (Nat.le_of_not_lt hge), List.take_zero]

namespace Declaration

/-- A header ends in a declaration of the source. -/
theorem exists_declares {name source : Text} {parts : Declaration} (hname : name.IsWord)
    (h : locate name source = .ok parts) :
    ∃ start, Declares name source ⟨start, parts.header.length⟩ := by
  obtain ⟨-, before, gap, hdecl⟩ := endsInDeclaration_of_locate hname h
  obtain ⟨lead, hlead⟩ := List.drop_suffix (lastStop 0 (spans parts.header)) parts.header
  have hheader : parts.header = (lead ++ before) ++ (Plumbing.keyword ++ (gap ++ name)) := by
    rw [List.append_assoc, ← hdecl.code_eq]
    exact hlead.symm
  refine ⟨(lead ++ before).length, gap, hdecl.gap_ne_nil, hdecl.gap_blank, ?_⟩
  rw [Text.slice_eq_drop_take, ← header_eq_take h, hheader]
  exact List.drop_left

/--
**The declaration that ends a header stands outside of every comment of the
source or within one, and it stands outside exactly if the header leaves no
comment open that the source closes behind the header.**
-/
theorem declares_outside_iff {name source : Text} {parts : Declaration} (hname : name.IsWord)
    (h : locate name source = .ok parts) :
    (∃ start, Declares name source ⟨start, parts.header.length⟩) ∧
    ∀ start, Declares name source ⟨start, parts.header.length⟩ →
      (Outside source ⟨start, parts.header.length⟩ ∨
        Within source ⟨start, parts.header.length⟩) ∧
      (Outside source ⟨start, parts.header.length⟩ ↔
        ¬ (opener <:+: codeBehind parts.header ∧
          closer <:+: source.drop parts.header.length)) := by
  refine ⟨exists_declares hname h, fun start hdecl => ?_⟩
  obtain ⟨hslash, hstar⟩ := hdecl.not_mem hname
  have hlt := hdecl.start_lt_stop
  have hlast : (source.take parts.header.length).getLast? ≠ some '*' :=
    Text.getLast?_take_of_not_mem hdecl.slice_ne_nil hstar
  have hacross := (within_iff_across hlt hslash hstar).trans (across_iff hlast)
  rw [← header_eq_take h] at hacross
  have hplace := outside_or_within hslash
  refine ⟨hplace, ?_⟩
  rw [← hacross]
  constructor
  · exact fun houtside hwithin => not_outside_of_within hlt hwithin houtside
  · exact fun hnot => hplace.resolve_right hnot

/-- A source with an opener behind its only comment, which nothing closes. -/
def openSource : Text := "/** A. */ /** B\n@interface Foo \x7b\x7d".toList

/-- A header may leave a comment open, if nothing behind it closes the comment. -/
theorem declares_outside_iff_open :
    Text.IsWord "Foo".toList ∧ ∃ parts, locate "Foo".toList openSource = .ok parts ∧
      ((∃ start, Declares "Foo".toList openSource ⟨start, parts.header.length⟩) ∧
        ∀ start, Declares "Foo".toList openSource ⟨start, parts.header.length⟩ →
          (Outside openSource ⟨start, parts.header.length⟩ ∨
            Within openSource ⟨start, parts.header.length⟩) ∧
          (Outside openSource ⟨start, parts.header.length⟩ ↔
            ¬ (opener <:+: codeBehind parts.header ∧
              closer <:+: openSource.drop parts.header.length))) ∧
      Outside openSource ⟨16, parts.header.length⟩ := by
  have hname : Text.IsWord "Foo".toList := ⟨by decide, List.all_eq_true.1 (by decide +kernel)⟩
  have h : locate "Foo".toList openSource =
      .ok ⟨"/** A. */ /** B\n@interface Foo".toList, "\x7b\x7d".toList⟩ := by
    decide +kernel
  have hplace := declares_outside_iff hname h
  refine ⟨hname, _, h, hplace, ?_⟩
  have hdecl : Declares "Foo".toList openSource ⟨16, 30⟩ :=
    ⟨[' '], by decide, List.all_eq_true.1 (by decide), by decide +kernel⟩
  refine ((hplace.2 16 hdecl).2).2 fun hopen => ?_
  exact absurd hopen.2 (by decide +kernel)

/-- A source whose second comment mentions the declaration before the declaration comes. -/
def mentionSource : Text :=
  "/** A. */\n/** See\n @interface Foo */\npublic @interface Foo \x7b\n\x7d\n".toList

/-- The comments of that source. -/
theorem spans_mentionSource : spans mentionSource = [⟨0, 9⟩, ⟨10, 36⟩] := by
  have hfirst : first? mentionSource = some ⟨0, 9⟩ := by decide +kernel
  have hsecond : first? (mentionSource.drop 9) = some ⟨1, 27⟩ := by decide +kernel
  have hno : first? ((mentionSource.drop 9).drop 27) = none := by decide +kernel
  rw [spans_of_some hfirst, spans_of_some hsecond, spans_of_none hno]
  rfl

/-- The mention in the second comment is taken for the declaration. -/
theorem declared_within :
    ¬ ∀ (name source : Text) (parts : Declaration) (start : Nat), name.IsWord →
      locate name source = .ok parts → Declares name source ⟨start, parts.header.length⟩ →
      Outside source ⟨start, parts.header.length⟩ := by
  intro houtside
  have hname : Text.IsWord "Foo".toList := ⟨by decide, List.all_eq_true.1 (by decide +kernel)⟩
  have h : locate "Foo".toList mentionSource =
      .ok ⟨"/** A. */\n/** See\n @interface Foo".toList, "\x7b\n\x7d".toList⟩ := by
    decide +kernel
  have hdecl : Declares "Foo".toList mentionSource ⟨19, 33⟩ :=
    ⟨[' '], by decide, List.all_eq_true.1 (by decide), by decide +kernel⟩
  have hcomment : (⟨10, 36⟩ : Span) ∈ spans mentionSource := by
    rw [spans_mentionSource]
    decide
  rcases houtside "Foo".toList mentionSource _ 19 hname h hdecl ⟨10, 36⟩ hcomment with hle | hle
  · exact absurd hle (by decide)
  · exact absurd hle (by decide)

end Declaration

end TraitDoc
