import TraitDoc.Proofs.LineByLine
/-!
# What stripping brings together

Each of the seven passes is made once. A pass does not look again at what its
own deletions bring together, and no earlier pass sees what a later one does. So
stripped code may hold a mark that another round of passes would find, and
stripping twice is not always stripping once.

A construct that is left in stripped code has not stood in the code as it stands
now: a deletion has brought its word together, or it has uncovered the end of
the word. Only that keeps code from being settled. The import lines play no part
in it, since their pass is the last one and takes whole lines.

## Main definitions

* `Plumbing.Settled` — a text in which no rule removes anything.
* `Plumbing.Construct` — what the rules look for, with the words they look for.
* `Plumbing.Left`, `Plumbing.InOnePiece` — a construct in stripped code, and its
  characters in the code.
* `Plumbing.BroughtTogether` — stripping makes a construct out of what was none.

## Main statements

* `Plumbing.strip_eq_self_iff` — stripping leaves settled texts alone, and no others.
* `Plumbing.exists_followed_of_ne_zero`, `Plumbing.Construct.rule_ne_zero` — the
  rules remove something exactly where a construct begins.
* `Plumbing.not_inOnePiece_of_left` — what is left has not stood in one piece.
* `Plumbing.strip_strip_of_one` — one `@` in a line is not brought together with anything.
* `Plumbing.strip_strip_eq_iff` — when stripping twice is stripping once.
-/

namespace TraitDoc

/-! ## Passes that change nothing -/

namespace Text

theorem removeFrom_eq_self_iff {rule : StretchRule} {b : Bool} {s : Text} :
    removeFrom rule 0 b s = s ↔
      ∀ front rest, s = front ++ rest → rest ≠ [] → rule (beginsLineAfter b front) rest = 0 := by
  induction s generalizing b with
  | nil =>
    refine ⟨fun _ front rest hs hrest => ?_, fun _ => rfl⟩
    exact absurd (List.append_eq_nil_iff.1 hs.symm).2 hrest
  | cons c s ih =>
    rw [removeFrom]
    constructor
    · intro h
      cases hrule : rule b (c :: s) with
      | succ n =>
        rw [hrule] at h
        have hlater : removeFrom rule n (c == '\n') s = c :: s := h
        have hshort := (removeFrom_sublist rule n (c == '\n') s).length_le
        rw [hlater, List.length_cons] at hshort
        omega
      | zero =>
        rw [hrule] at h
        intro front rest hs hrest
        cases front with
        | nil =>
          rw [List.nil_append] at hs
          rw [← hs]
          exact hrule
        | cons d front =>
          obtain ⟨rfl, hfront⟩ := List.cons.inj hs
          exact ih.1 (List.cons.inj h).2 front rest hfront hrest
    · intro h
      have hhere : rule b (c :: s) = 0 := h [] (c :: s) rfl (List.cons_ne_nil c s)
      rw [hhere]
      refine congrArg (c :: ·) (ih.2 fun front rest hs hrest => ?_)
      exact h (c :: front) rest (congrArg (c :: ·) hs) hrest

/-- What stands before the first line feed, where only characters other than line feeds are lost. -/
theorem line_sublist_line {s t : Text} (h : s.Sublist t) (hcount : t.count '\n' ≤ s.count '\n') :
    (line s).Sublist (line t) := by
  induction h with
  | slnil => exact List.Sublist.refl _
  | @cons s t c h ih =>
    have hle := h.count_le '\n'
    by_cases hc : c = '\n'
    · rw [hc, List.count_cons_self] at hcount
      omega
    · rw [List.count_cons_of_ne hc] at hcount
      have hline : line (c :: t) = c :: line t := by simp [line, hc]
      rw [hline]
      exact (ih hcount).cons c
  | @cons_cons s t c h ih =>
    by_cases hc : c = '\n'
    · simp [line, hc]
    · rw [List.count_cons_of_ne hc, List.count_cons_of_ne hc] at hcount
      have hlines : line (c :: s) = c :: line s ∧ line (c :: t) = c :: line t := by simp [line, hc]
      rw [hlines.1, hlines.2]
      exact (ih hcount).cons_cons c

end Text

namespace Plumbing

/-- Passes that only delete cannot make up for one another. -/
theorem foldl_removeAll_eq_self_iff {passes : List StretchRule} {s : Text} :
    passes.foldl (fun s rule => Text.removeAll rule s) s = s ↔
      ∀ rule ∈ passes, Text.removeAll rule s = s := by
  induction passes with
  | nil => simp
  | cons rule passes ih =>
    rw [List.foldl_cons, List.forall_mem_cons, ← ih]
    constructor
    · intro h
      have hlater := foldl_removeAll_sublist passes (Text.removeAll rule s)
      rw [h] at hlater
      have hfirst : Text.removeAll rule s = s := (Text.removeAll_sublist rule s).antisymm hlater
      rw [hfirst] at h
      exact ⟨hfirst, h⟩
    · intro h
      rw [h.1]
      exact h.2

/-- No rule removes anything in the text. -/
def Settled (s : Text) : Prop :=
  ∀ rule ∈ rules, ∀ front rest, s = front ++ rest → rest ≠ [] →
    rule (Text.beginsLineAfter true front) rest = 0

/-- Stripping leaves settled texts alone, and no others. -/
theorem strip_eq_self_iff {s : Text} : strip s = s ↔ Settled s :=
  foldl_removeAll_eq_self_iff.trans (forall₂_congr fun _ _ => Text.removeFrom_eq_self_iff)

theorem removeAll_importLine_idem (s : Text) :
    Text.removeAll importLine (Text.removeAll importLine s) = Text.removeAll importLine s := by
  have hline : ∀ l : Text, '\n' ∉ l →
      Text.removeAll importLine (Text.removeAll importLine l) = Text.removeAll importLine l := by
    intro l hl
    rw [removeAll_importLine_of_not_mem hl]
    split
    · rfl
    · rename_i hp
      rw [removeAll_importLine_of_not_mem hl, if_neg hp]
  induction s using Text.line_induction with
  | line l hl => exact hline l hl
  | feed l s hl ih =>
    rw [removeAll_importLine_append_lineFeed, removeAll_importLine_append_lineFeed, hline l hl, ih]

/-! ## Constructs -/

/-- What the rules look for besides import lines. -/
inductive Construct
  | retention
  | target
  | tag
  | inherited
  | keyword (spaces : Nat)

namespace Construct

/-- The word that a construct begins with. -/
def word : Construct → Text
  | retention => Plumbing.retention
  | target => Plumbing.target
  | tag => Plumbing.tag
  | inherited => Plumbing.inherited
  | keyword spaces => publicKeyword spaces

/--
What has to follow the word: the end of the arguments on its line, or the end of
the word. The tag mark needs no arguments, since it is also removed alone.
-/
def Followed : Construct → Text → Prop
  | retention, rest | target, rest => ')' ∈ Text.line rest
  | tag, rest | inherited, rest => ∀ c, rest.head? = some c → isWord c = false
  | keyword _, _ => True

/-- The last rule that removes the construct, wherever it begins. -/
def rule : Construct → StretchRule
  | retention => upToFirst Plumbing.retention
  | target => upToFirst Plumbing.target
  | tag => markAlone Plumbing.tag
  | inherited => markAlone Plumbing.inherited
  | keyword _ => declaringKeyword

theorem rule_mem (c : Construct) : c.rule ∈ rules := by cases c <;> simp [rule, rules]

theorem word_ne_nil (c : Construct) : c.word ≠ [] := by
  cases c <;> exact List.cons_ne_nil _ _

end Construct

/-! ## Where the rules remove something -/

theorem upToFirst_ne_zero_iff {mark : Text} {b : Bool} {s : Text} :
    upToFirst mark b s ≠ 0 ↔ ∃ rest, s = mark ++ rest ∧ ')' ∈ Text.line rest := by
  unfold upToFirst
  constructor
  · intro h
    split at h
    · rename_i hp
      obtain ⟨rest, rfl⟩ := List.isPrefixOf_iff_prefix.1 hp
      refine ⟨rest, rfl, Decidable.byContradiction fun hnot => ?_⟩
      rw [List.drop_left, Text.indexOf?_singleton_eq_none hnot] at h
      exact h rfl
    · exact absurd rfl h
  · intro h
    obtain ⟨rest, rfl, hin⟩ := h
    rw [if_pos (List.isPrefixOf_iff_prefix.2 (List.prefix_append mark rest)), List.drop_left]
    cases hfind : Text.indexOf? [')'] (Text.line rest) with
    | some i => exact Nat.succ_ne_zero _
    | none =>
      obtain ⟨front, behind, hline⟩ := List.append_of_mem hin
      have hnowhere := Text.indexOf?_eq_none_iff.1 hfind front.length (by simp [hline])
      rw [hline, List.drop_left] at hnowhere
      exact absurd (List.prefix_append [')'] behind) hnowhere

/-- A mark that ends in a word character stands whole where no word character follows. -/
theorem standsWhole_iff {mark s : Text} (hmark : mark.getLast?.any isWord = true) :
    standsWhole mark s = true ↔
      ∃ rest, s = mark ++ rest ∧ ∀ c, rest.head? = some c → isWord c = false := by
  have hboundary : ∀ rest : Text, isBoundary mark.getLast? rest.head? = true ↔
      ∀ c, rest.head? = some c → isWord c = false := by
    intro rest
    rw [isBoundary, hmark]
    cases rest.head? <;> simp
  rw [standsWhole, Bool.and_eq_true, List.isPrefixOf_iff_prefix]
  constructor
  · intro h
    obtain ⟨⟨rest, rfl⟩, hend⟩ := h
    rw [List.drop_left] at hend
    exact ⟨rest, rfl, (hboundary rest).1 hend⟩
  · intro h
    obtain ⟨rest, rfl, hend⟩ := h
    rw [List.drop_left]
    exact ⟨List.prefix_append mark rest, (hboundary rest).2 hend⟩

theorem upToLast_ne_zero {mark : Text} {b : Bool} {s : Text} (h : upToLast mark b s ≠ 0) :
    standsWhole mark s = true := by
  unfold upToLast at h
  split at h
  · assumption
  · exact absurd rfl h

theorem markAlone_ne_zero_iff {mark : Text} (hmark : mark ≠ []) {b : Bool} {s : Text} :
    markAlone mark b s ≠ 0 ↔ standsWhole mark s = true := by
  unfold markAlone
  split
  · rename_i hwhole
    exact ⟨fun _ => hwhole, fun _ h => hmark (List.eq_nil_of_length_eq_zero h)⟩
  · rename_i hwhole
    exact ⟨fun h => absurd rfl h, fun h => absurd h hwhole⟩

theorem tag_ends_in_word : tag.getLast?.any isWord = true := by decide +kernel

theorem inherited_ends_in_word : inherited.getLast?.any isWord = true := by decide +kernel

/-- Where a rule other than that for imports removes something, a construct begins. -/
theorem exists_followed_of_ne_zero {rule : StretchRule} (hrule : rule ∈ rules)
    (himport : rule ≠ importLine) {b : Bool} {s : Text} (h : rule b s ≠ 0) :
    ∃ (c : Construct) (rest : Text), s = c.word ++ rest ∧ c.Followed rest := by
  have hcases : rule = upToFirst retention ∨ rule = upToFirst target ∨ rule = upToLast tag ∨
      rule = markAlone tag ∨ rule = markAlone inherited ∨ rule = declaringKeyword := by
    simpa [rules, himport] using hrule
  rcases hcases with rfl | rfl | rfl | rfl | rfl | rfl
  · exact ⟨.retention, upToFirst_ne_zero_iff.1 h⟩
  · exact ⟨.target, upToFirst_ne_zero_iff.1 h⟩
  · exact ⟨.tag, (standsWhole_iff tag_ends_in_word).1 (upToLast_ne_zero h)⟩
  · have hwhole := (markAlone_ne_zero_iff (by decide)).1 h
    exact ⟨.tag, (standsWhole_iff tag_ends_in_word).1 hwhole⟩
  · have hwhole := (markAlone_ne_zero_iff (by decide)).1 h
    exact ⟨.inherited, (standsWhole_iff inherited_ends_in_word).1 hwhole⟩
  · obtain ⟨n, rest, rfl⟩ := exists_publicKeyword_of_ne_zero h
    exact ⟨.keyword n, rest, rfl, trivial⟩

/-- Where a construct begins, its rule removes something. -/
theorem Construct.rule_ne_zero {c : Construct} {rest : Text} (h : c.Followed rest) (b : Bool) :
    c.rule b (c.word ++ rest) ≠ 0 := by
  cases c with
  | retention =>
    show upToFirst Plumbing.retention b (Plumbing.retention ++ rest) ≠ 0
    exact upToFirst_ne_zero_iff.2 ⟨rest, rfl, h⟩
  | target =>
    show upToFirst Plumbing.target b (Plumbing.target ++ rest) ≠ 0
    exact upToFirst_ne_zero_iff.2 ⟨rest, rfl, h⟩
  | tag =>
    have hwhole := (standsWhole_iff tag_ends_in_word).2 ⟨rest, rfl, h⟩
    show markAlone Plumbing.tag b (Plumbing.tag ++ rest) ≠ 0
    exact (markAlone_ne_zero_iff (by decide)).2 hwhole
  | inherited =>
    have hwhole := (standsWhole_iff inherited_ends_in_word).2 ⟨rest, rfl, h⟩
    show markAlone Plumbing.inherited b (Plumbing.inherited ++ rest) ≠ 0
    exact (markAlone_ne_zero_iff (by decide)).2 hwhole
  | keyword n =>
    have hlength := declaringKeyword_eq_length (List.prefix_append (publicKeyword n) rest) b
    have hpos : (publicKeyword n).length ≠ 0 := by
      rw [publicKeyword_eq_cons]
      exact Nat.succ_ne_zero _
    rw [rule, word, hlength]
    exact hpos

/-! ## Constructs in stripped code -/

/-- A mark that ends in a name asks for the next character: whether that is the same here and there. -/
def Construct.SameBehind : Construct → Placed → Placed → Prop
  | tag, rest, behind | inherited, rest, behind => rest.head? = behind.head?
  | retention, _, _ | target, _, _ | keyword _, _, _ => True

/-- A construct in stripped code: its word, with offsets in the code, and what is left behind it. -/
structure Left (code : Text) (c : Construct) (stretch rest : Placed) : Prop where
  suffix : stretch ++ rest <:+ kept code
  word : stretch.text = c.word
  followed : c.Followed rest.text

/-- The stretch is one of the code too, and what matters behind it has been there before. -/
def InOnePiece (code : Text) (c : Construct) (stretch rest : Placed) : Prop :=
  ∃ behind, stretch ++ behind <:+ Placed.ofText code ∧ c.SameBehind rest behind

/-- Stripping leaves a construct that has not stood in the code in one piece. -/
def BroughtTogether (code : Text) : Prop :=
  ∃ c stretch rest, Left code c stretch rest ∧ ¬ InOnePiece code c stretch rest

/-- A first character that is left all the way has been the first one on the way. -/
private theorem head?_of_between {rest mid behind : Placed} (hbehind : behind.Nodup)
    (hrest : rest.Sublist mid) (hmid : mid.Sublist behind) (hsame : rest.head? = behind.head?) :
    mid.head? = rest.head? := by
  cases behind with
  | nil => rw [List.sublist_nil.1 hmid, hsame]
  | cons d behind =>
    rw [hsame]
    have hd : d ∈ mid := hrest.subset (List.mem_of_mem_head? hsame)
    cases hmid with
    | cons _ hmid => exact absurd (hmid.subset hd) (List.nodup_cons.1 hbehind).1
    | cons_cons _ _ => rfl

/-- What is followed in the end as it has to be has been followed so on the way. -/
theorem Construct.followed_of_between {c : Construct} {rest mid behind : Placed}
    (hbehind : behind.Nodup) (hrest : rest.Sublist mid) (hmid : mid.Sublist behind)
    (hcount : mid.text.count '\n' ≤ rest.text.count '\n') (hsame : c.SameBehind rest behind)
    (h : c.Followed rest.text) : c.Followed mid.text := by
  have hline : (Text.line rest.text).Sublist (Text.line mid.text) :=
    Text.line_sublist_line (hrest.map Prod.fst) hcount
  have hhead : rest.head? = behind.head? → mid.text.head? = rest.text.head? := by
    intro hsame
    rw [Placed.text, Placed.text, List.head?_map, List.head?_map,
      head?_of_between hbehind hrest hmid hsame]
  cases c with
  | retention => exact hline.subset h
  | target => exact hline.subset h
  | tag =>
    intro d hd
    exact h d (hhead hsame ▸ hd)
  | inherited =>
    intro d hd
    exact h d (hhead hsame ▸ hd)
  | keyword n => trivial

/-- A rule makes its pass over a text between the code and the stripped code. -/
private theorem exists_before_pass {rule : StretchRule} (h : rule ∈ rules) (code : Text) :
    ∃ mid : Placed, mid.Sublist (Placed.ofText code) ∧
      (kept code).Sublist (Placed.removeAll rule mid) ∧ mid.text.count '\n' = code.count '\n' := by
  obtain ⟨before, after, hrules⟩ := List.append_of_mem h
  refine ⟨Placed.passes before (Placed.ofText code), Placed.passes_sublist before _, ?_, ?_⟩
  · rw [kept, hrules, Placed.passes_append]
    exact Placed.passes_sublist after _
  · have hbefore : ∀ rule ∈ before, rule.KeepsToLine := by
      intro rule hin
      refine keepsToLine_of_mem ?_
      rw [hrules]
      exact List.mem_append_left _ hin
    rw [Placed.text_passes, Placed.text_ofText, count_foldl_removeAll hbefore]

/-- What is left in the stripped code has not stood in the code in one piece. -/
theorem not_inOnePiece_of_left {code : Text} {c : Construct} {stretch rest : Placed}
    (h : Left code c stretch rest) : ¬ InOnePiece code c stretch rest := by
  intro hpiece
  obtain ⟨behind, ⟨front, hcode⟩, hsame⟩ := hpiece
  obtain ⟨front', hkept⟩ := h.suffix
  have hne : stretch ≠ [] := by
    intro hnil
    have hword := h.word
    rw [hnil] at hword
    exact c.word_ne_nil hword.symm
  have hnodup := Placed.nodup_ofText code
  -- the stretch stands in the text that the pass of the rule is made over
  obtain ⟨mid, hmid, hleft, hfeeds⟩ := exists_before_pass c.rule_mem code
  have hkeptMid : (kept code).Sublist mid := hleft.trans (Placed.removeFrom_sublist c.rule 0 true mid)
  obtain ⟨frontMid, restMid, hsplit, hfront, hrest, hbehind⟩ :=
    Placed.exists_split_between hnodup hne hcode.symm hmid hkeptMid hkept.symm
  -- and there it is followed as it has to be, since no line feed is lost
  have hcount : restMid.text.count '\n' ≤ rest.text.count '\n' := by
    have hfrontCount : (Placed.text front').count '\n' ≤ (Placed.text frontMid).count '\n' :=
      (hfront.map Prod.fst).count_le '\n'
    have hleftFeeds : (kept code).text.count '\n' = code.count '\n' := by
      rw [text_kept, count_strip]
    rw [hsplit, Placed.text_append, Placed.text_append, List.count_append, List.count_append]
      at hfeeds
    rw [← hkept, Placed.text_append, Placed.text_append, List.count_append, List.count_append]
      at hleftFeeds
    omega
  have hbehindNodup : behind.Nodup := by
    rw [← hcode] at hnodup
    exact (List.nodup_append.1 (List.nodup_append.1 hnodup).2.1).2.1
  have hfollowed := Construct.followed_of_between hbehindNodup hrest hbehind hcount hsame h.followed
  -- so the rule would have removed its first character, which is left
  obtain ⟨d, more, hcons⟩ := List.exists_cons_of_ne_nil hne
  have hsuffix : d :: (more ++ restMid) <:+ mid := ⟨frontMid, by rw [hsplit, hcons]; rfl⟩
  have hd : d ∈ kept code := by simp [← hkept, hcons]
  obtain ⟨b, hzero⟩ := Placed.rule_eq_zero_of_mem (hmid.nodup hnodup) hsuffix (hleft.subset hd)
  have hword : Placed.text (d :: (more ++ restMid)) = c.word ++ restMid.text := by
    rw [← h.word, ← Placed.text_append, hcons]
    rfl
  rw [hword] at hzero
  exact Construct.rule_ne_zero hfollowed b hzero

theorem Left.exists_strip_eq {code : Text} {c : Construct} {stretch rest : Placed}
    (h : Left code c stretch rest) : ∃ front, strip code = front ++ (c.word ++ rest.text) := by
  obtain ⟨front, hkept⟩ := h.suffix
  refine ⟨Placed.text front, ?_⟩
  rw [← text_kept, ← hkept, Placed.text_append, Placed.text_append, h.word]

/-- Stripped code is settled if no construct is left in it. -/
theorem settled_strip_iff {code : Text} :
    Settled (strip code) ↔ ∀ c stretch rest, ¬ Left code c stretch rest := by
  constructor
  · intro hsettled c stretch rest h
    obtain ⟨front, hcode⟩ := h.exists_strip_eq
    have hne : c.word ++ rest.text ≠ [] := List.append_ne_nil_of_left_ne_nil c.word_ne_nil _
    exact Construct.rule_ne_zero h.followed _ (hsettled c.rule c.rule_mem _ _ hcode hne)
  · intro hnone rule hrule front rest hcode hne
    refine Decidable.byContradiction fun hfires => ?_
    have himport : rule ≠ importLine := by
      rintro rfl
      have hself : Text.removeAll importLine (strip code) = strip code :=
        removeAll_importLine_idem _
      exact hfires (Text.removeFrom_eq_self_iff.1 hself front rest hcode hne)
    obtain ⟨c, behind, rfl, hfollowed⟩ := exists_followed_of_ne_zero hrule himport hfires
    have hkept : (kept code).text = front ++ (c.word ++ behind) := by rw [text_kept, hcode]
    obtain ⟨keptFront, keptRest, hsplit, -, hrest⟩ := List.map_eq_append_iff.1 hkept
    obtain ⟨stretch, keptBehind, rfl, hword, rfl⟩ := List.map_eq_append_iff.1 hrest
    exact hnone c stretch keptBehind ⟨⟨keptFront, hsplit.symm⟩, hword, hfollowed⟩

end Plumbing

/-! ## Code with one mark in a line -/

namespace Text

/-- What is still to be dropped is dropped, and then characters are only lost. -/
theorem removeFrom_sublist_drop (rule : StretchRule) (skip : Nat) (b : Bool) (s : Text) :
    (removeFrom rule skip b s).Sublist (s.drop skip) := by
  induction s generalizing skip b with
  | nil => cases skip <;> exact List.nil_sublist _
  | cons c s ih =>
    cases skip with
    | succ skip => exact ih skip _
    | zero => exact removeFrom_sublist rule 0 b (c :: s)

/-- A rule that removes nothing without a certain character makes those fewer, or changes nothing. -/
theorem removeFrom_eq_self_or_count_lt {mark : Char} {rule : StretchRule}
    (h : ∀ b s, rule b s ≠ 0 → mark ∈ s.take (rule b s)) (b : Bool) (s : Text) :
    removeFrom rule 0 b s = s ∨ (removeFrom rule 0 b s).count mark < s.count mark := by
  induction s generalizing b with
  | nil => exact .inl rfl
  | cons c s ih =>
    rw [removeFrom]
    cases hrule : rule b (c :: s) with
    | zero =>
      rcases ih (c == '\n') with hself | hless
      · exact .inl (congrArg (c :: ·) hself)
      · right
        show (c :: removeFrom rule 0 (c == '\n') s).count mark < _
        rw [List.count_cons, List.count_cons]
        omega
    | succ n =>
      right
      have hin : mark ∈ (c :: s).take (n + 1) := hrule ▸ h b (c :: s) (by simp [hrule])
      have hlost : 0 < ((c :: s).take (n + 1)).count mark := List.count_pos_iff.2 hin
      have hleft := (removeFrom_sublist_drop rule n (c == '\n') s).count_le mark
      have hall : (c :: s).count mark =
          ((c :: s).take (n + 1)).count mark + (s.drop n).count mark := by
        rw [← List.count_append]
        exact congrArg (List.count mark) (List.take_append_drop (n + 1) (c :: s)).symm
      rw [hall]
      exact Nat.lt_of_le_of_lt hleft (Nat.lt_add_of_pos_left hlost)

end Text

namespace Plumbing

theorem Construct.at_mem_word (c : Construct) : '@' ∈ c.word := by
  have hkeyword : '@' ∈ Plumbing.keyword := by decide
  cases c with
  | retention => exact List.mem_cons_self
  | target => exact List.mem_cons_self
  | tag => exact List.mem_cons_self
  | inherited => exact List.mem_cons_self
  | keyword n => exact List.mem_append_right _ hkeyword

/-- What a rule other than that for imports removes holds an `@`. -/
theorem mem_take_of_ne_zero {rule : StretchRule} (hrule : rule ∈ rules.take 6) {b : Bool} {s : Text}
    (h : rule b s ≠ 0) : '@' ∈ s.take (rule b s) := by
  have hcases : rule ∈ rules.take 5 ∨ rule = declaringKeyword := by
    simpa [rules, or_assoc] using hrule
  rcases hcases with hmark | rfl
  · obtain ⟨mark, hmark, hrule⟩ := markRule_of_mem hmark
    obtain ⟨d, more, rfl, -⟩ := hmark.begins
    obtain ⟨rest, rfl⟩ := hrule.fires b s h
    obtain ⟨n, hn⟩ := Nat.exists_eq_succ_of_ne_zero h
    rw [hn]
    exact List.mem_cons_self
  · obtain ⟨n, rest, rfl⟩ := exists_publicKeyword_of_ne_zero h
    rw [declaringKeyword_eq_length (List.prefix_append _ rest), List.take_left]
    exact (Construct.keyword n).at_mem_word

/-- With such a character at most once in the text, the first pass that changes it takes that one. -/
theorem foldl_removeAll_eq_self_or_not_mem {mark : Char} {passes : List StretchRule}
    (h : ∀ rule ∈ passes, ∀ b s, rule b s ≠ 0 → mark ∈ s.take (rule b s)) {s : Text}
    (hs : s.count mark ≤ 1) :
    passes.foldl (fun s rule => Text.removeAll rule s) s = s ∨
      mark ∉ passes.foldl (fun s rule => Text.removeAll rule s) s := by
  induction passes with
  | nil => exact .inl rfl
  | cons rule passes ih =>
    rw [List.foldl_cons]
    rcases Text.removeFrom_eq_self_or_count_lt (h rule (by simp)) true s with hself | hless
    · have hpass : Text.removeAll rule s = s := hself
      rw [hpass]
      exact ih fun r hr => h r (by simp [hr])
    · have hgone : mark ∉ Text.removeAll rule s := by
        rw [← List.count_eq_zero]
        exact Nat.lt_one_iff.1 (Nat.lt_of_lt_of_le hless hs)
      exact .inr fun hin => hgone ((foldl_removeAll_sublist passes _).subset hin)

private theorem strip_strip_of_line {l : Text} (hl : '\n' ∉ l) (hcount : l.count '@' ≤ 1) :
    strip (strip l) = strip l := by
  have hrules : ∀ rule ∈ rules.take 6, ∀ b s, rule b s ≠ 0 → '@' ∈ s.take (rule b s) :=
    fun _ hrule _ _ => mem_take_of_ne_zero hrule
  have hstrip : strip l = Text.removeAll importLine
      ((rules.take 6).foldl (fun s rule => Text.removeAll rule s) l) := rfl
  rcases foldl_removeAll_eq_self_or_not_mem hrules hcount with hself | hgone
  · rw [hself, removeAll_importLine_of_not_mem hl] at hstrip
    split at hstrip
    · rw [hstrip, strip_nil]
    · rw [hstrip, hstrip]
  · rw [strip_eq_self_iff, settled_strip_iff]
    intro c stretch rest hleft
    obtain ⟨front, hline⟩ := hleft.exists_strip_eq
    have hin : '@' ∈ strip l := by
      rw [hline]
      exact List.mem_append_right _ (List.mem_append_left _ c.at_mem_word)
    rw [hstrip] at hin
    exact hgone ((Text.removeAll_sublist importLine _).subset hin)

/-- Where no line holds a second `@`, stripping twice is stripping once. -/
theorem strip_strip_of_one {code : Text} (h : ∀ l ∈ Text.splitAt '\n' code, l.count '@' ≤ 1) :
    strip (strip code) = strip code := by
  induction code using Text.line_induction with
  | line l hl =>
    rw [Text.splitAt_of_not_mem hl] at h
    exact strip_strip_of_line hl (h l (by simp))
  | feed l s hl ih =>
    rw [Text.splitAt_append_cons hl] at h
    rw [strip_append_lineFeed, strip_append_lineFeed, ih fun r hr => h r (by simp [hr]),
      strip_strip_of_line hl (h l (by simp))]

/-! ## Stripping twice -/

/--
**Stripping twice is stripping once exactly if the stripped code is settled, and
that is exactly if stripping has brought no construct together. It is so for all
code in which no line holds a second `@`.**
-/
theorem strip_strip_eq_iff (code : Text) :
    (strip (strip code) = strip code ↔ Settled (strip code)) ∧
      (strip (strip code) = strip code ↔ ¬ BroughtTogether code) ∧
      ((∀ l ∈ Text.splitAt '\n' code, l.count '@' ≤ 1) → strip (strip code) = strip code) := by
  refine ⟨strip_eq_self_iff, ?_, strip_strip_of_one⟩
  rw [strip_eq_self_iff, settled_strip_iff]
  constructor
  · intro hnone htogether
    obtain ⟨c, stretch, rest, hleft, -⟩ := htogether
    exact hnone c stretch rest hleft
  · intro htogether c stretch rest hleft
    exact htogether ⟨c, stretch, rest, hleft, not_inOnePiece_of_left hleft⟩

/-- A mark, a declaring keyword and an import on lines of their own go at once. -/
theorem strip_strip_eq_header :
    (∀ l ∈ Text.splitAt '\n' "import a.B;\n@Target(T)\npublic @interface Foo".toList,
      l.count '@' ≤ 1) ∧
    strip (strip "import a.B;\n@Target(T)\npublic @interface Foo".toList) =
      strip "import a.B;\n@Target(T)\npublic @interface Foo".toList := by
  have hlines : ∀ l ∈ Text.splitAt '\n' "import a.B;\n@Target(T)\npublic @interface Foo".toList,
      l.count '@' ≤ 1 := by decide +kernel
  exact ⟨hlines, (strip_strip_eq_iff _).2.2 hlines⟩

/-- Where the inherited mark stands between a mark and its arguments, the mark is left. -/
theorem strip_strip_ne : ¬ ∀ code, strip (strip code) = strip code := by
  intro hidem
  have honce : strip "@Target@Inherited(T)".toList = "@Target(T)".toList := by decide +kernel
  have htwice : strip "@Target(T)".toList = [] := by decide +kernel
  have heq := hidem "@Target@Inherited(T)".toList
  rw [honce, htwice] at heq
  exact absurd heq (by decide)

end Plumbing

end TraitDoc
