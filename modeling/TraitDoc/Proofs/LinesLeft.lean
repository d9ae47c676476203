import TraitDoc.Proofs.BroughtTogether
import TraitDoc.Proofs.HeaderEnd
/-!
# What is left of a line

Code is stripped line by line, so it is enough to know what becomes of a line.
Apart from imports, a rule removes something only where it finds one of five
words. A line that holds none of them and is no import is left as it is, by
every single pass, and an import line is not left at all, even if an earlier
pass has made it one.

The tag mark is removed by two rules. The first one takes the mark with all that
stands before the last closing parenthesis of its line, whether or not the mark
has arguments. So a mark without arguments is removed alone only if no closing
parenthesis follows on its line. Which of the two happens is seen where nothing
else on the line is to be removed.

## Main definitions

* `Plumbing.soughtWords`, `Plumbing.Unmarked` — what the rules look for, and
  lines without it.
* `Plumbing.BareTag` — a line whose only mark is a tag mark without arguments.

## Main statements

* `Plumbing.Unmarked.strip_eq` — a line without marks is left as it is.
* `Plumbing.strip_lines` — what becomes of the lines of some code.
* `Plumbing.BareTag.strip_of_closed`, `Plumbing.BareTag.strip_of_not_closed` —
  what becomes of a line with a tag mark.
* `Plumbing.strip_bare_tag_iff` — when the tag mark is removed alone.
* `Plumbing.strip_bare_tag_loses` — it is not always removed alone.
-/

namespace TraitDoc

namespace Text

/-- Within a line no line begins. -/
theorem beginsLineAfter_of_not_mem {s : Text} (h : '\n' ∉ s) (hs : s ≠ []) (b : Bool) :
    beginsLineAfter b s = false := by
  induction s generalizing b with
  | nil => exact absurd rfl hs
  | cons c s ih =>
    have hne : '\n' ≠ c ∧ '\n' ∉ s := by simpa using h
    show beginsLineAfter (c == '\n') s = false
    by_cases hnil : s = []
    · subst hnil
      simpa [beginsLineAfter] using Ne.symm hne.1
    · exact ih hne.2 hnil _

/-- A suffix of two texts lies in the second one, or it takes something of the first one with it. -/
theorem suffix_append_cases {t front rest : Text} (h : t <:+ front ++ rest) :
    t <:+ rest ∨ ∃ u, u ≠ [] ∧ u <:+ front ∧ t = u ++ rest := by
  rcases List.suffix_or_suffix_of_suffix h (List.suffix_append front rest) with ht | ⟨u, rfl⟩
  · exact .inl ht
  · by_cases hu : u = []
    · left
      simp [hu]
    · exact .inr ⟨u, hu, List.suffix_append_self_iff.1 h, rfl⟩

/-- Where a rule removes nothing in front of `rest`, its pass begins there. -/
theorem removeFrom_append_of_zero {rule : StretchRule} {front rest : Text}
    (h : ∀ b t, t <:+ front → t ≠ [] → rule b (t ++ rest) = 0) (b : Bool) :
    removeFrom rule 0 b (front ++ rest) =
      front ++ removeFrom rule 0 (beginsLineAfter b front) rest := by
  induction front generalizing b with
  | nil => rfl
  | cons c front ih =>
    have hhere : rule b (c :: (front ++ rest)) = 0 :=
      h b (c :: front) (List.suffix_refl _) (List.cons_ne_nil c front)
    have hlater : ∀ b t, t <:+ front → t ≠ [] → rule b (t ++ rest) = 0 :=
      fun b t ht => h b t (ht.trans (List.suffix_cons c front))
    rw [List.cons_append, removeFrom, hhere]
    show c :: removeFrom rule 0 (c == '\n') (front ++ rest) = _
    rw [ih hlater]
    rfl

end Text

namespace Plumbing

/-! ## Lines without marks -/

/-- The words without which no rule removes anything, except for imports. -/
def soughtWords : List Text := [retention, target, tag, inherited, keyword]

/-- The line holds none of the words and is no import. -/
structure Unmarked (l : Text) : Prop where
  no_word : ∀ word ∈ soughtWords, ¬ word <:+: l
  no_import : ¬ importWord <+: l

theorem Construct.exists_soughtWord (c : Construct) : ∃ word ∈ soughtWords, word <:+: c.word := by
  cases c with
  | retention => exact ⟨Plumbing.retention, by simp [soughtWords], List.infix_refl _⟩
  | target => exact ⟨Plumbing.target, by simp [soughtWords], List.infix_refl _⟩
  | tag => exact ⟨Plumbing.tag, by simp [soughtWords], List.infix_refl _⟩
  | inherited => exact ⟨Plumbing.inherited, by simp [soughtWords], List.infix_refl _⟩
  | keyword n =>
    exact ⟨Plumbing.keyword, by simp [soughtWords], (List.suffix_append _ _).isInfix⟩

theorem importLine_ne_zero {b : Bool} {s : Text} (h : importLine b s ≠ 0) :
    b = true ∧ importWord <+: s := by
  unfold importLine at h
  split at h
  · rename_i hstarts
    simpa using hstarts
  · exact absurd rfl h

/-- In a line without marks no rule removes anything. -/
theorem Unmarked.settled {l : Text} (h : Unmarked l) (hl : '\n' ∉ l) : Settled l := by
  intro rule hrule front rest hsplit hrest
  by_contra hfires
  by_cases himport : rule = importLine
  · subst himport
    have hstarts := importLine_ne_zero hfires
    by_cases hfront : front = []
    · apply h.no_import
      rw [hsplit, hfront]
      exact hstarts.2
    · have hfeed : '\n' ∉ front := fun hin => hl (hsplit ▸ List.mem_append_left rest hin)
      simp [Text.beginsLineAfter_of_not_mem hfeed hfront] at hstarts
  · obtain ⟨c, behind, rfl, -⟩ := exists_followed_of_ne_zero hrule himport hfires
    obtain ⟨word, hword, hin⟩ := c.exists_soughtWord
    apply h.no_word word hword
    rw [hsplit]
    exact hin.trans ⟨front, behind, List.append_assoc _ _ _⟩

theorem Unmarked.strip_eq {l : Text} (h : Unmarked l) (hl : '\n' ∉ l) : strip l = l :=
  strip_eq_self_iff.2 (h.settled hl)

/-- No pass changes a line without marks. -/
theorem Unmarked.removeAll_eq {l : Text} (h : Unmarked l) (hl : '\n' ∉ l) :
    ∀ rule ∈ rules, Text.removeAll rule l = l :=
  foldl_removeAll_eq_self_iff.1 (h.strip_eq hl)

/-! ## The lines of some code -/

/-- The last pass leaves no import, also where the earlier ones have made one. -/
theorem not_import_strip {l : Text} (hl : '\n' ∉ l) : ¬ importWord <+: strip l := by
  have hfeed : '\n' ∉ stripMarks l := fun hin => hl ((foldl_removeAll_sublist _ l).subset hin)
  rw [Plumbing.strip_eq, removeAll_importLine_of_not_mem hfeed]
  by_cases himport : importWord.isPrefixOf (stripMarks l) = true
  · rw [if_pos himport]
    decide
  · rw [if_neg himport]
    simpa using himport

/--
**Every line of the stripped code comes from the line at its place by deletions
alone, none of them is an import, and a line without marks is left as it is.**
-/
theorem strip_lines (code : Text) :
    List.Forall₂ List.Sublist (Text.splitAt '\n' (strip code)) (Text.splitAt '\n' code) ∧
    (∀ l ∈ Text.splitAt '\n' (strip code), ¬ importWord <+: l) ∧
    ∀ (k : Nat) (l : Text), (Text.splitAt '\n' code)[k]? = some l → Unmarked l →
      (Text.splitAt '\n' (strip code))[k]? = some l := by
  rw [splitAt_strip]
  refine ⟨?_, ?_, ?_⟩
  · rw [List.forall₂_map_left_iff, List.forall₂_same]
    exact fun l _ => strip_sublist l
  · intro l hl
    obtain ⟨line, hline, rfl⟩ := List.mem_map.1 hl
    exact not_import_strip (Text.not_mem_of_mem_splitAt hline)
  · intro k l hk hunmarked
    have hl : '\n' ∉ l := Text.not_mem_of_mem_splitAt (List.mem_of_getElem? hk)
    rw [List.getElem?_map, hk, Option.map_some, hunmarked.strip_eq hl]

/-- An import that a removed mark has hidden goes too, and the line behind it is left. -/
theorem strip_lines_import :
    (Text.splitAt '\n' "@Inheritedimport a;\npublic int i;".toList)[1]? =
      some "public int i;".toList ∧
    Unmarked "public int i;".toList ∧
    (∀ l ∈ Text.splitAt '\n' (strip "@Inheritedimport a;\npublic int i;".toList),
      ¬ importWord <+: l) ∧
    (Text.splitAt '\n' (strip "@Inheritedimport a;\npublic int i;".toList))[1]? =
      some "public int i;".toList := by
  have hline : (Text.splitAt '\n' "@Inheritedimport a;\npublic int i;".toList)[1]? =
      some "public int i;".toList := by decide
  have hunmarked : Unmarked "public int i;".toList := ⟨by decide +kernel, by decide⟩
  have h := strip_lines "@Inheritedimport a;\npublic int i;".toList
  exact ⟨hline, hunmarked, h.2.1, h.2.2 1 _ hline hunmarked⟩

/-! ## Lines with a tag mark -/

/-- Between `front` and `rest`, a tag mark without arguments is the only mark of the line. -/
structure BareTag (front rest : Text) : Prop where
  one_line : '\n' ∉ front ++ rest
  unmarked : Unmarked (front ++ rest)
  ends_word : ∀ c, rest.head? = some c → isWord c = false
  no_arguments : (rest.dropWhile (· == ' ')).head? ≠ some '('

/-- The words begin with an `@` and hold no other. -/
theorem at_not_mem_tail : ∀ word ∈ soughtWords, '@' ∉ word.tail := by decide

theorem exists_cons_of_sought : ∀ word ∈ soughtWords, word = '@' :: word.tail := by decide

/-- What the first three rules remove ends in a closing parenthesis. -/
theorem exists_closed_of_ne_zero {rule : StretchRule} (hrule : rule ∈ rules.take 3) {b : Bool}
    {s : Text} (h : rule b s ≠ 0) :
    ∃ mark ∈ soughtWords, ∃ rest, s = mark ++ rest ∧ ')' ∈ rest := by
  have hcases : rule = upToFirst retention ∨ rule = upToFirst target ∨ rule = upToLast tag := by
    simpa [rules] using hrule
  rcases hcases with rfl | rfl | rfl
  · obtain ⟨rest, hs, hin⟩ := upToFirst_ne_zero_iff.1 h
    exact ⟨retention, by simp [soughtWords], rest, hs, (Text.line_isPrefix rest).subset hin⟩
  · obtain ⟨rest, hs, hin⟩ := upToFirst_ne_zero_iff.1 h
    exact ⟨target, by simp [soughtWords], rest, hs, (Text.line_isPrefix rest).subset hin⟩
  · obtain ⟨rest, rfl⟩ := prefix_of_standsWhole (upToLast_ne_zero h)
    refine ⟨tag, by simp [soughtWords], rest, rfl, ?_⟩
    by_contra hin
    have hline : ')' ∉ Text.line rest := fun hmem => hin ((Text.line_isPrefix rest).subset hmem)
    simp [upToLast, Text.lastIndexOf?_eq_none_iff.2 hline] at h

/-- What the passes behind the first one for the tag mark leave. -/
def passesBehindTag (code : Text) : Text :=
  (rules.drop 3).foldl (fun s rule => Text.removeAll rule s) code

theorem strip_eq_passesBehindTag (code : Text) :
    strip code = passesBehindTag (Text.removeAll (upToLast tag)
      (Text.removeAll (upToFirst target) (Text.removeAll (upToFirst retention) code))) := rfl

/-- The first of these passes is the one for the tag mark alone. -/
theorem passesBehindTag_eq (code : Text) :
    passesBehindTag code =
      (rules.drop 4).foldl (fun s rule => Text.removeAll rule s)
        (Text.removeAll (markAlone tag) code) := by
  have hrules : rules.drop 3 = markAlone tag :: rules.drop 4 := rfl
  rw [passesBehindTag, hrules, List.foldl_cons]

namespace BareTag

variable {front rest : Text} (h : BareTag front rest)

include h

/-- Neither a place before the mark nor one behind it begins with one of the words. -/
theorem not_prefix {mark : Text} (hmark : mark ∈ soughtWords) :
    (∀ t, t <:+ front → t ≠ [] → ¬ mark <+: t ++ (tag ++ rest)) ∧
      ∀ t, t <:+ rest → ¬ mark <+: t := by
  have hword := h.unmarked.no_word mark hmark
  constructor
  · intro t ht hne hprefix
    apply hword
    have hin : mark <+: t := Text.prefix_of_prefix_append (at_not_mem_tail mark hmark) hne hprefix
    exact hin.isInfix.trans (ht.isInfix.trans (List.prefix_append front rest).isInfix)
  · intro t ht hprefix
    apply hword
    exact hprefix.isInfix.trans (ht.trans (List.suffix_append front rest)).isInfix

/-- A rule that does not fire at the mark removes nothing. -/
theorem removeAll_eq_self {mark : Text} {rule : StretchRule} (hrule : MarkRule mark rule)
    (hmark : mark ∈ soughtWords) (hhere : ∀ b, rule b (tag ++ rest) = 0) :
    Text.removeAll rule (front ++ (tag ++ rest)) = front ++ (tag ++ rest) := by
  obtain ⟨hbefore, hbehind⟩ := h.not_prefix hmark
  refine Text.removeAll_eq_self fun b t ht _ => ?_
  by_contra hfires
  have hprefix := hrule.fires b t hfires
  rcases Text.suffix_append_cases ht with ht | ⟨u, hu, hsuffix, rfl⟩
  · rcases List.suffix_cons_iff.1 ht with rfl | ht
    · exact hfires (hhere b)
    · -- within the mark no other word begins
      have hat : ∃ more, t = '@' :: more := by
        obtain ⟨more, rfl⟩ := hprefix
        rw [exists_cons_of_sought mark hmark]
        exact ⟨_, rfl⟩
      obtain ⟨more, rfl⟩ := hat
      have hlater := Text.suffix_of_suffix_append (by decide) ht
      exact hbehind _ hlater hprefix
  · exact hbefore u hsuffix hu hprefix

/-- A rule that removes a stretch from the mark on leaves what stands before it and behind it. -/
theorem removeAll_eq {rule : StretchRule} (hrule : MarkRule tag rule) {stretch behind : Text}
    (hrest : tag ++ rest = stretch ++ behind) (hne : stretch ≠ []) (hbehind : behind <:+ rest)
    (hhere : ∀ b, rule b (tag ++ rest) = stretch.length) :
    Text.removeAll rule (front ++ (tag ++ rest)) = front ++ behind := by
  have hmark : tag ∈ soughtWords := by simp [soughtWords]
  have hplaces := h.not_prefix hmark
  have hzero : ∀ b t, t <:+ front → t ≠ [] → rule b (t ++ (tag ++ rest)) = 0 := by
    intro b t ht hnil
    by_contra hfires
    exact hplaces.1 t ht hnil (hrule.fires b _ hfires)
  have hkeep : ∀ b, Text.removeFrom rule 0 b behind = behind := by
    refine Text.removeFrom_eq_self fun b t ht _ => ?_
    by_contra hfires
    exact hplaces.2 t (ht.trans hbehind) (hrule.fires b t hfires)
  have hpass := Text.removeFrom_append_of_zero hzero true
  rw [hrest] at hpass hhere ⊢
  show Text.removeFrom rule 0 true (front ++ (stretch ++ behind)) = front ++ behind
  rw [hpass, Text.removeFrom_of_removed (hhere _) hne, hkeep]

theorem standsWhole_tag : standsWhole tag (tag ++ rest) = true :=
  (standsWhole_iff tag_ends_in_word).2 ⟨rest, rfl, h.ends_word⟩

/-- The rules for the other marks with arguments remove nothing. -/
theorem removeAll_upToFirst {mark : Text} (hmark : mark ∈ [retention, target]) :
    Text.removeAll (upToFirst mark) (front ++ (tag ++ rest)) = front ++ (tag ++ rest) := by
  have hcases : mark ∈ soughtWords ∧ IsMark mark ∧ mark.length ≤ tag.length ∧ ¬ mark <+: tag := by
    rcases List.mem_pair.1 hmark with rfl | rfl
    · exact ⟨by simp [soughtWords], isMark_retention, by decide, by decide⟩
    · exact ⟨by simp [soughtWords], isMark_target, by decide, by decide⟩
  obtain ⟨hsought, hisMark, hlength, hnot⟩ := hcases
  have hrule := upToFirst_markRule hisMark.noBlank
  refine h.removeAll_eq_self hrule hsought fun b => ?_
  by_contra hfires
  apply hnot
  exact List.prefix_of_prefix_length_le (hrule.fires b _ hfires) (List.prefix_append tag rest) hlength

/-- Without a closing parenthesis behind it the mark is removed alone. -/
theorem strip_of_not_closed (hrest : ')' ∉ rest) :
    strip (front ++ (tag ++ rest)) = front ++ rest := by
  have hmark : tag ∈ soughtWords := by simp [soughtWords]
  have hlast : Text.removeAll (upToLast tag) (front ++ (tag ++ rest)) = front ++ (tag ++ rest) := by
    refine h.removeAll_eq_self (upToLast_markRule isMark_tag.noBlank) hmark fun b => ?_
    have hline : ')' ∉ Text.line rest := fun hin => hrest ((Text.line_isPrefix rest).subset hin)
    simp [upToLast, Text.lastIndexOf?_eq_none_iff.2 hline]
  have halone : Text.removeAll (markAlone tag) (front ++ (tag ++ rest)) = front ++ rest := by
    refine h.removeAll_eq (markAlone_markRule isMark_tag.noBlank) rfl (by decide)
      (List.suffix_refl rest) fun b => ?_
    rw [markAlone, if_pos h.standsWhole_tag]
  have hlater : ∀ rule ∈ rules.drop 4, Text.removeAll rule (front ++ rest) = front ++ rest :=
    fun rule hrule => h.unmarked.removeAll_eq h.one_line rule (List.mem_of_mem_drop hrule)
  rw [strip_eq_passesBehindTag, h.removeAll_upToFirst (by simp), h.removeAll_upToFirst (by simp),
    hlast, passesBehindTag_eq, halone]
  exact foldl_removeAll_eq_self_iff.2 hlater

/-- Before a text without a closing parenthesis the first three rules remove nothing. -/
theorem removeAll_append_eq_self {behind : Text} (hbehind : ')' ∉ behind) {rule : StretchRule}
    (hrule : rule ∈ rules.take 3) : Text.removeAll rule (front ++ behind) = front ++ behind := by
  refine Text.removeAll_eq_self fun b t ht _ => ?_
  by_contra hfires
  obtain ⟨mark, hmark, later, rfl, hclosed⟩ := exists_closed_of_ne_zero hrule hfires
  rcases Text.suffix_append_cases ht with ht | ⟨u, -, hu, hsplit⟩
  · exact hbehind (ht.subset (List.mem_append_right mark hclosed))
  · rcases List.append_eq_append_iff.1 hsplit with ⟨more, rfl, rfl⟩ | ⟨more, rfl, rfl⟩
    · have hin : mark <:+: front := (List.prefix_append mark more).isInfix.trans hu.isInfix
      apply h.unmarked.no_word mark hmark
      exact hin.trans (List.prefix_append front rest).isInfix
    · exact hbehind (List.mem_append_right more hclosed)

/-- Up to the last closing parenthesis behind it all goes with the mark, and what is left is stripped. -/
theorem strip_of_closed {between behind : Text} (hrest : rest = between ++ ')' :: behind)
    (hbehind : ')' ∉ behind) : strip (front ++ (tag ++ rest)) = strip (front ++ behind) := by
  have hline : '\n' ∉ rest := fun hin => h.one_line (List.mem_append_right front hin)
  have hlast : Text.removeAll (upToLast tag) (front ++ (tag ++ rest)) = front ++ behind := by
    have hsplit : tag ++ rest = (tag ++ (between ++ [')'])) ++ behind := by
      simp [hrest]
    have hfind : Text.lastIndexOf? ')' rest = some between.length :=
      Text.lastIndexOf?_eq_some_iff_append.2 ⟨between, behind, hrest, hbehind, rfl⟩
    have hsuffix : behind <:+ rest := ⟨between ++ [')'], by simp [hrest]⟩
    refine h.removeAll_eq (upToLast_markRule isMark_tag.noBlank) hsplit (by simp) hsuffix fun b => ?_
    rw [upToLast, if_pos h.standsWhole_tag, List.drop_left, Text.line_of_not_mem hline, hfind]
    simp [Nat.add_assoc]
  have hnone : ∀ rule ∈ rules.take 3, Text.removeAll rule (front ++ behind) = front ++ behind :=
    fun _ hrule => h.removeAll_append_eq_self hbehind hrule
  rw [strip_eq_passesBehindTag, h.removeAll_upToFirst (by simp), h.removeAll_upToFirst (by simp),
    hlast, strip_eq_passesBehindTag, hnone _ (by simp [rules]), hnone _ (by simp [rules]),
    hnone _ (by simp [rules])]

end BareTag

/--
**A tag mark without arguments costs only itself exactly if no closing
parenthesis follows on its line. Otherwise it costs all up to the last one.**
-/
theorem strip_bare_tag_iff {front rest : Text} (h : BareTag front rest) :
    (strip (front ++ (tag ++ rest)) = front ++ rest ↔ ')' ∉ rest) ∧
    ∀ between behind, rest = between ++ ')' :: behind → ')' ∉ behind →
      strip (front ++ (tag ++ rest)) = strip (front ++ behind) := by
  refine ⟨⟨fun hkept hclosed => ?_, h.strip_of_not_closed⟩, fun _ _ => h.strip_of_closed⟩
  cases hlast : Text.lastIndexOf? ')' rest with
  | none => exact Text.lastIndexOf?_eq_none_iff.1 hlast hclosed
  | some i =>
    obtain ⟨between, behind, hrest, hbehind, -⟩ := Text.lastIndexOf?_eq_some_iff_append.1 hlast
    -- what is left is too short for all of `rest`
    have hshort := (strip_sublist (front ++ behind)).length_le
    rw [← h.strip_of_closed hrest hbehind, hkept, hrest] at hshort
    simp only [List.length_append, List.length_cons] at hshort
    omega

theorem isWord_head?_space (s : Text) : ∀ c, (' ' :: s).head? = some c → isWord c = false := by
  intro c hc
  obtain rfl : ' ' = c := by simpa using hc
  exact isWord_eq_false_of_isBlank (by decide)

/-- A tag mark before a call in a comment takes the call with it, though that is no argument of it. -/
theorem strip_bare_tag_iff_call :
    BareTag "final ".toList " /* see f(x) */ int i;".toList ∧
    strip "final @TagAnnotation /* see f(x) */ int i;".toList = strip "final  */ int i;".toList := by
  have h : BareTag "final ".toList " /* see f(x) */ int i;".toList :=
    ⟨by decide, ⟨by decide +kernel, by decide⟩, isWord_head?_space _, by decide⟩
  exact ⟨h, (strip_bare_tag_iff h).2 " /* see f(x".toList " */ int i;".toList rfl (by decide)⟩

/-- A mark with arguments behind the tag mark goes with it. -/
theorem strip_bare_tag_loses :
    ¬ ∀ front rest, BareTag front rest → strip (front ++ (tag ++ rest)) = front ++ rest := by
  intro hkept
  have h : BareTag [] " @Documented() public".toList :=
    ⟨by decide, ⟨by decide +kernel, by decide⟩, isWord_head?_space _, by decide⟩
  have hleft : strip ([] ++ (tag ++ " @Documented() public".toList)) = " public".toList := by
    decide +kernel
  have heq := (hkept _ _ h).symm.trans hleft
  exact absurd heq (by decide)

end Plumbing

end TraitDoc
