import TraitDoc.Proofs.SourceGrammar
/-!
# Comments found again

A text is code and comments in turn. The comments are found one after another,
by offsets in the whole text, and cleaning goes along with that search: it
strips the code between two comments and copies the comments.

Cleaned text is searched again by whoever reads it. To find the same comments
there, it is not enough that they have been copied. A comment begins at the
first opener, so an opener that comes to stand in the code before a comment
begins another one, which ends in the copied comment or before it. Stripping can
make such an opener, by taking away what has stood between a slash and two
stars. Where it makes none, and no whole comment behind the last one, the
cleaned text falls into the stripped code and the comments of the text. This is
the law of a text that is put together from given pieces.

## Main definitions

* `DocComment.Iterated` — the searches for comments, one after another.
* `DocComment.comments`, `DocComment.pieces` — the comments of a text, alone and
  each with the code before it.
* `DocComment.written` — the text that some pieces make.
* `Plumbing.OpensNone` — stripping makes no comment.

## Main statements

* `DocComment.iterated_iff` — the searches come to an end and find the spans.
* `Plumbing.stripAroundComments_iterated` — the cleaned text by the offsets found.
* `DocComment.pieces_written_iff` — when a text falls into the pieces that make it.
* `Plumbing.comments_stripAroundComments` — when the cleaned text holds the same
  comments.
* `Plumbing.comment_absorbed` — it does not always.
-/

namespace TraitDoc

namespace DocComment

/-! ## One search after another -/

/-- Searches from `start` on, each from the end of the comment before it, until one finds nothing. -/
inductive Iterated (s : Text) : Nat → List Span → Prop
  | done {start : Nat} (h : firstFrom? start s = none) : Iterated s start []
  | found {start : Nat} {p : Span} {ps : List Span} (h : firstFrom? start s = some p)
    (later : Iterated s p.stop ps) : Iterated s start (p :: ps)

/-- The searches come to an end, since each comment found leaves less of the text. -/
theorem iterated_spansFrom (s : Text) (start : Nat) : Iterated s start (spansFrom start s) := by
  cases h : firstFrom? start s with
  | none =>
    rw [spansFrom_of_none h]
    exact .done h
  | some p =>
    have hbounds := firstFrom?_bounds h
    rw [spansFrom_of_some h]
    exact .found h (iterated_spansFrom s p.stop)
termination_by s.length - start
decreasing_by omega

theorem iterated_iff {s : Text} {start : Nat} {ps : List Span} :
    Iterated s start ps ↔ ps = spansFrom start s := by
  constructor
  · intro h
    induction h with
    | done h => rw [spansFrom_of_none h]
    | found h _ ih => rw [spansFrom_of_some h, ih]
  · intro h
    rw [h]
    exact iterated_spansFrom s start

/-- The comments stand one behind another. -/
theorem pairwise_spans (s : Text) : (spans s).Pairwise fun p q => p.stop ≤ q.start := by
  induction s using comment_induction with
  | none s hs => simp [spans_of_none hs]
  | some s p hs ih =>
    rw [spans_of_some hs, List.pairwise_cons, List.pairwise_map]
    constructor
    · intro q hq
      obtain ⟨r, -, rfl⟩ := List.mem_map.1 hq
      simp [Span.shift]
    · refine ih.imp fun hle => ?_
      simpa [Span.shift] using hle

end DocComment

open DocComment

namespace Plumbing

/--
**One search after another, each from the end of the comment before it, comes to
an end and finds comments that stand one behind another. The cleaned text is the
stripped code between them and the comments, in turn.**
-/
theorem stripAroundComments_iterated (s : Text) :
    (∃! ps, Iterated s 0 ps) ∧
    ∀ ps, Iterated s 0 ps →
      ps.Pairwise (fun p q => p.stop ≤ q.start) ∧
      (∀ p ∈ ps, p.start < p.stop ∧ p.stop ≤ s.length) ∧
      stripAroundComments s = cleanedThrough s 0 ps ++ strip (s.drop (lastStop 0 ps)) := by
  refine ⟨⟨spans s, iterated_spansFrom s 0, fun ps h => iterated_iff.1 h⟩, fun ps h => ?_⟩
  obtain rfl : ps = spans s := iterated_iff.1 h
  refine ⟨pairwise_spans s, fun p hp => ?_, stripAroundComments_eq s⟩
  have hbounds := mem_spans_closer hp
  omega

/-- Two comments that touch, the first with an opener and a closer that overlap, and an open one. -/
def touchingComments : Text := "@Inherited/**/**//***//**/import".toList

/-- Of comments that touch none takes anything from the next. -/
theorem stripAroundComments_iterated_touching :
    Iterated touchingComments 0 [⟨10, 17⟩, ⟨17, 22⟩] ∧
    [(⟨10, 17⟩ : Span), ⟨17, 22⟩].Pairwise (fun p q => p.stop ≤ q.start) ∧
    (⟨17, 22⟩ : Span) ∈ [(⟨10, 17⟩ : Span), ⟨17, 22⟩] ∧
    (17 < 22 ∧ 22 ≤ touchingComments.length) ∧
    stripAroundComments touchingComments =
      cleanedThrough touchingComments 0 [⟨10, 17⟩, ⟨17, 22⟩] ++
        strip (touchingComments.drop 22) := by
  have hiterated : Iterated touchingComments 0 [⟨10, 17⟩, ⟨17, 22⟩] :=
    .found (by decide +kernel) (.found (by decide +kernel) (.done (by decide +kernel)))
  have hmem : (⟨17, 22⟩ : Span) ∈ [(⟨10, 17⟩ : Span), ⟨17, 22⟩] := by decide
  have h := (stripAroundComments_iterated touchingComments).2 _ hiterated
  exact ⟨hiterated, h.1, hmem, h.2.1 _ hmem, h.2.2⟩

end Plumbing

namespace DocComment

/-! ## Pieces -/

/-- The comments of a text, as they stand there. -/
def comments (s : Text) : List Text := (spans s).map s.slice

/-- Some comments, each with the code before it, from `start` on. -/
def piecesFrom (s : Text) (start : Nat) : List Span → List (Text × Text)
  | [] => []
  | p :: ps => (s.slice ⟨start, p.start⟩, s.slice p) :: piecesFrom s p.stop ps

/-- The comments of a text, each with the code before it. -/
def pieces (s : Text) : List (Text × Text) := piecesFrom s 0 (spans s)

/-- The text that is made of some pieces, with the code behind the last comment. -/
def written : List (Text × Text) → (behind : Text) → Text
  | [], behind => behind
  | (code, comment) :: ps, behind => code ++ (comment ++ written ps behind)

theorem map_snd_pieces (s : Text) : (pieces s).map Prod.snd = comments s := by
  have h : ∀ (ps : List Span) (start : Nat), (piecesFrom s start ps).map Prod.snd = ps.map s.slice := by
    intro ps
    induction ps with
    | nil => intro start; rfl
    | cons p ps ih =>
      intro start
      simp [piecesFrom, ih]
  exact h (spans s) 0

theorem piecesFrom_shift (s : Text) (offset start : Nat) (ps : List Span) :
    piecesFrom s (offset + start) (ps.map fun p => p.shift offset) =
      piecesFrom (s.drop offset) start ps := by
  induction ps generalizing start with
  | nil => rfl
  | cons p ps ih =>
    have hcode : s.slice ⟨offset + start, offset + p.start⟩ =
        Text.slice (s.drop offset) ⟨start, p.start⟩ := Text.slice_shift s ⟨start, p.start⟩ offset
    show (s.slice ⟨offset + start, offset + p.start⟩, s.slice (p.shift offset)) ::
      piecesFrom s (offset + p.stop) (ps.map fun q => q.shift offset) = _
    rw [hcode, Text.slice_shift, ih]
    rfl

theorem pieces_of_none {s : Text} (h : first? s = none) : pieces s = [] := by
  rw [pieces, spans_of_none h]
  rfl

theorem pieces_of_some {s : Text} {p : Span} (h : first? s = some p) :
    pieces s = (s.take p.start, s.slice p) :: pieces (s.drop p.stop) := by
  have hcode : s.slice ⟨0, p.start⟩ = s.take p.start := by simp [Text.slice]
  rw [pieces, spans_of_some h, piecesFrom, hcode]
  exact congrArg (_ :: ·) (piecesFrom_shift s p.stop 0 _)

theorem comments_of_none {s : Text} (h : first? s = none) : comments s = [] := by
  rw [comments, spans_of_none h]
  rfl

theorem comments_of_some {s : Text} {p : Span} (h : first? s = some p) :
    comments s = s.slice p :: comments (s.drop p.stop) := by
  rw [← map_snd_pieces, ← map_snd_pieces, pieces_of_some h]
  rfl

/-! ## The pieces of a text -/

/-- The text is a comment, from its first character to its last. -/
def IsComment (s : Text) : Prop := first? s = some ⟨0, s.length⟩

theorem prefix_drop_slice_iff {word s : Text} {p : Span} {k : Nat} :
    word <+: (s.slice p).drop k ↔
      word <+: s.drop (p.start + k) ∧ word.length ≤ p.stop - p.start - k := by
  rw [Text.slice, List.drop_take, List.drop_drop, List.prefix_take_iff]

theorem isComment_slice {s : Text} {p : Span} (h : first? s = some p) : IsComment (s.slice p) := by
  have hbounds := first?_bounds h
  have hfirst := isFirst_of_first? h
  have hlength : (s.slice p).length = p.stop - p.start := by
    rw [Text.slice, List.length_take, List.length_drop]
    omega
  have hopenLen : opener.length = 3 := rfl
  have hcloseLen : closer.length = 2 := rfl
  rw [IsComment, first?_eq_some_iff_isFirst, hlength]
  constructor
  · show opener <+: (s.slice p).drop 0
    exact prefix_drop_slice_iff.2 ⟨hfirst.opener_at, by omega⟩
  · show 0 + 5 ≤ p.stop - p.start
    omega
  · show closer <+: (s.slice p).drop (p.stop - p.start - 2)
    have hend : p.start + (p.stop - p.start - 2) = p.stop - 2 := by omega
    refine prefix_drop_slice_iff.2 ⟨?_, by omega⟩
    rw [hend]
    exact hfirst.closer_at
  · intro i hi
    exact absurd hi (Nat.not_lt_zero i)
  · intro k hlo hhi hclose
    simp only at hlo hhi
    exact hfirst.no_closer (p.start + k) (by omega) (by omega) (prefix_drop_slice_iff.1 hclose).1

theorem not_opener_take {s : Text} {p : Span} (h : first? s = some p) :
    ¬ opener <:+: s.take p.start := by
  intro hin
  obtain ⟨i, hi, hopen⟩ := Text.isInfix_iff.1 hin
  rw [List.drop_take, List.prefix_take_iff] at hopen
  have hopenLen : opener.length = 3 := rfl
  rw [List.length_take] at hi
  exact (isFirst_of_first? h).no_opener i (by omega) hopen.1

theorem of_mem_pieces {s : Text} {q : Text × Text} (hq : q ∈ pieces s) :
    ¬ opener <:+: q.1 ∧ IsComment q.2 := by
  induction s using comment_induction with
  | none s hs => simp [pieces_of_none hs] at hq
  | some s p hs ih =>
    rw [pieces_of_some hs, List.mem_cons] at hq
    rcases hq with rfl | hq
    · exact ⟨not_opener_take hs, isComment_slice hs⟩
    · exact ih hq

theorem not_commented_codeBehind (s : Text) : ¬ Commented (codeBehind s) := by
  induction s using comment_induction with
  | none s hs =>
    rw [codeBehind_of_none hs]
    exact first?_eq_none_iff.1 hs
  | some s p hs ih =>
    rw [codeBehind_of_some hs]
    exact ih

/-! ## Texts that are put together -/

/-- Behind code without an opener a comment is found where it begins. -/
theorem first?_append {code comment : Text} (hcode : ¬ opener <:+: code) (h : IsComment comment)
    (rest : Text) : first? (code ++ (comment ++ rest)) =
      some ⟨code.length, code.length + comment.length⟩ := by
  have hfirst := isFirst_of_first? h
  have hroom : 5 ≤ comment.length := by simpa using hfirst.room
  have hopen : opener <+: comment := hfirst.opener_at
  have hdrop : ∀ k, code.length ≤ k → k ≤ code.length + comment.length →
      (code ++ (comment ++ rest)).drop k = comment.drop (k - code.length) ++ rest := by
    intro k hlo hhi
    rw [List.drop_append, List.drop_eq_nil_of_le hlo, List.nil_append,
      List.drop_append_of_le_length (by omega)]
  rw [first?_eq_some_iff_isFirst]
  constructor
  · show opener <+: (code ++ (comment ++ rest)).drop code.length
    rw [List.drop_left]
    exact hopen.trans (List.prefix_append comment rest)
  · show code.length + 5 ≤ code.length + comment.length
    omega
  · show closer <+: (code ++ (comment ++ rest)).drop (code.length + comment.length - 2)
    have hend : code.length + comment.length - 2 - code.length = comment.length - 2 := by omega
    rw [hdrop _ (by omega) (by omega), hend]
    exact hfirst.closer_at.trans (List.prefix_append _ rest)
  · intro i hi hhere
    -- the opener would have to begin again at the comment
    obtain ⟨more, rfl⟩ := hopen
    have hne : code.drop i ≠ [] := by simpa using hi
    rw [List.drop_append_of_le_length (Nat.le_of_lt hi)] at hhere
    have hin : opener <+: code.drop i := Text.prefix_of_prefix_append (by decide) hne hhere
    exact hcode (hin.isInfix.trans (List.drop_suffix i code).isInfix)
  · intro k hlo hhi hclose
    simp only at hlo hhi
    have hcloseLen : closer.length = 2 := rfl
    rw [hdrop k (by omega) (by omega)] at hclose
    have hin : closer <+: comment.drop (k - code.length) := by
      refine List.prefix_of_prefix_length_le hclose (List.prefix_append _ rest) ?_
      rw [List.length_drop]
      omega
    exact hfirst.no_closer (k - code.length) (by simp only; omega) (by simp only; omega) hin

/-- The first piece of such a text, and the pieces behind it. -/
theorem pieces_append {code comment : Text} (hcode : ¬ opener <:+: code) (h : IsComment comment)
    (rest : Text) :
    pieces (code ++ (comment ++ rest)) = (code, comment) :: pieces rest ∧
      codeBehind (code ++ (comment ++ rest)) = codeBehind rest := by
  have hfirst := first?_append hcode h rest
  have hslice : Text.slice (code ++ (comment ++ rest))
      ⟨code.length, code.length + comment.length⟩ = comment := by
    simp [Text.slice]
  have hdrop : (code ++ (comment ++ rest)).drop (code.length + comment.length) = rest := by
    rw [← List.drop_drop, List.drop_left, List.drop_left]
  constructor
  · rw [pieces_of_some hfirst, hslice, List.take_left]
    show (code, comment) :: pieces ((code ++ (comment ++ rest)).drop (code.length + comment.length)) = _
    rw [hdrop]
  · rw [codeBehind_of_some hfirst]
    show codeBehind ((code ++ (comment ++ rest)).drop (code.length + comment.length)) = _
    rw [hdrop]

/-- A text falls into the pieces that make it exactly if no code of them makes a comment. -/
theorem pieces_written_iff {ps : List (Text × Text)} {behind : Text}
    (hps : ∀ q ∈ ps, IsComment q.2) :
    pieces (written ps behind) = ps ∧ codeBehind (written ps behind) = behind ↔
      (∀ q ∈ ps, ¬ opener <:+: q.1) ∧ ¬ Commented behind := by
  constructor
  · intro h
    have hbehind := not_commented_codeBehind (written ps behind)
    rw [h.2] at hbehind
    refine ⟨fun q hq => ?_, hbehind⟩
    rw [← h.1] at hq
    exact (of_mem_pieces hq).1
  · intro h
    induction ps with
    | nil =>
      have hnone : first? behind = none := first?_eq_none_iff.2 h.2
      exact ⟨pieces_of_none hnone, codeBehind_of_none hnone⟩
    | cons q ps ih =>
      rw [List.forall_mem_cons] at hps h
      have hlater := ih hps.2 ⟨h.1.2, h.2⟩
      have hhere := pieces_append h.1.1 hps.1 (written ps behind)
      rw [hlater.1, hlater.2] at hhere
      exact hhere

/-! ## Comments of a longer text -/

/-- The first comment ends at the latest where a closer stands behind an opener. -/
theorem stop_le_of_first? {s : Text} {p : Span} {i k : Nat} (h : first? s = some p)
    (hopen : opener <+: s.drop i) (hclose : closer <+: s.drop k) (hik : i + 3 ≤ k) :
    p.stop ≤ k + 2 := by
  have hfirst := isFirst_of_first? h
  have hstart : p.start ≤ i := by
    by_contra hlt
    exact hfirst.no_opener i (by omega) hopen
  by_contra hlt
  exact hfirst.no_closer k (by omega) (by omega) hclose

/-- A text in front may take a comment with it, but only by another comment that ends there or before. -/
theorem length_comments_le_append (front s : Text) :
    (comments s).length ≤ (comments (front ++ s)).length := by
  induction s using comment_induction generalizing front with
  | none s hs => simp [comments_of_none hs]
  | some s p hs ih =>
    have hfirst := isFirst_of_first? hs
    have hroom := hfirst.room
    have hbounds := first?_bounds hs
    have hopen : opener <+: (front ++ s).drop (front.length + p.start) := by
      rw [← List.drop_drop, List.drop_left]
      exact hfirst.opener_at
    have hclose : closer <+: (front ++ s).drop (front.length + (p.stop - 2)) := by
      rw [← List.drop_drop, List.drop_left]
      exact hfirst.closer_at
    have hcommented : Commented (front ++ s) := ⟨_, _, by omega, hopen, hclose⟩
    obtain ⟨q, hq⟩ := commented_iff.1 hcommented
    have hstop := stop_le_of_first? hq hopen hclose (by omega)
    -- behind the comment found stands the rest of `s`, with something in front of it
    have hrest : (front ++ s).drop q.stop =
        (front ++ s.take p.stop).drop q.stop ++ s.drop p.stop := by
      rw [← List.drop_append_of_le_length, List.append_assoc, List.take_append_drop]
      rw [List.length_append, List.length_take]
      omega
    have hlater := ih ((front ++ s.take p.stop).drop q.stop)
    rw [comments_of_some hs, comments_of_some hq, hrest, List.length_cons, List.length_cons]
    omega

theorem comments_append {comment : Text} (h : IsComment comment) (rest : Text) :
    comments (comment ++ rest) = comment :: comments rest := by
  have hnone : ¬ opener <:+: ([] : Text) := by decide
  have hpieces := (pieces_append hnone h rest).1
  rw [List.nil_append] at hpieces
  rw [← map_snd_pieces, ← map_snd_pieces, hpieces]
  rfl

/-- A text that is put together holds at least as many comments as it is made of. -/
theorem length_le_comments_written {ps : List (Text × Text)} (hps : ∀ q ∈ ps, IsComment q.2)
    (behind : Text) : ps.length ≤ (comments (written ps behind)).length := by
  induction ps with
  | nil => exact Nat.zero_le _
  | cons q ps ih =>
    rw [List.forall_mem_cons] at hps
    have hlater := ih hps.2
    have hhere := length_comments_le_append q.1 (q.2 ++ written ps behind)
    rw [comments_append hps.1, List.length_cons] at hhere
    show ps.length + 1 ≤ (comments (q.1 ++ (q.2 ++ written ps behind))).length
    omega

end DocComment

namespace Plumbing

/-! ## The comments of cleaned text -/

/-- A comment with the stripped code before it. -/
def stripPiece (q : Text × Text) : Text × Text := (strip q.1, q.2)

/-- Stripping makes no comment: it opens none in front of another, and makes no whole one behind the last. -/
structure OpensNone (s : Text) : Prop where
  before : ∀ q ∈ pieces s, ¬ opener <:+: strip q.1
  behind : ¬ Commented (strip (codeBehind s))

/-- Cleaned text is put together from the stripped code and the comments. -/
theorem stripAroundComments_eq_written (s : Text) :
    stripAroundComments s = written ((pieces s).map stripPiece) (strip (codeBehind s)) := by
  have h : ∀ (ps : List Span) (start : Nat) (behind : Text),
      cleanedThrough s start ps ++ behind = written ((piecesFrom s start ps).map stripPiece) behind := by
    intro ps
    induction ps with
    | nil => intro start behind; rfl
    | cons p ps ih =>
      intro start behind
      show strip (s.slice ⟨start, p.start⟩) ++ s.slice p ++ cleanedThrough s p.stop ps ++ behind =
        strip (s.slice ⟨start, p.start⟩) ++
          (s.slice p ++ written ((piecesFrom s p.stop ps).map stripPiece) behind)
      rw [← ih]
      simp only [List.append_assoc]
  rw [stripAroundComments_eq]
  exact h (spans s) 0 _

theorem isComment_of_mem_stripPiece (s : Text) :
    ∀ q ∈ (pieces s).map stripPiece, IsComment q.2 := by
  intro q hq
  obtain ⟨r, hr, rfl⟩ := List.mem_map.1 hq
  exact (of_mem_pieces hr).2

theorem opensNone_iff (s : Text) :
    OpensNone s ↔ pieces (stripAroundComments s) = (pieces s).map stripPiece ∧
      codeBehind (stripAroundComments s) = strip (codeBehind s) := by
  rw [stripAroundComments_eq_written, pieces_written_iff (isComment_of_mem_stripPiece s),
    List.forall_mem_map]
  exact ⟨fun h => ⟨h.before, h.behind⟩, fun h => ⟨h.1, h.2⟩⟩

theorem OpensNone.comments_eq {s : Text} (h : OpensNone s) :
    comments (stripAroundComments s) = comments s := by
  rw [← map_snd_pieces, ← map_snd_pieces, ((opensNone_iff s).1 h).1, List.map_map]
  rfl

/-- Code without slash, or without star, is not stripped to an opener. -/
theorem not_opener_strip {code : Text} (h : '/' ∉ code ∨ '*' ∉ code) :
    ¬ opener <:+: strip code := by
  intro hin
  have hsubset : ∀ c ∈ opener, c ∈ code := fun c hc => (strip_sublist code).subset (hin.subset hc)
  have hslash : '/' ∈ code := hsubset '/' (by decide)
  have hstar : '*' ∈ code := hsubset '*' (by decide)
  exact h.elim (absurd hslash) (absurd hstar)

theorem opensNone_of_parted {s : Text} (hbefore : ∀ q ∈ pieces s, '/' ∉ q.1 ∨ '*' ∉ q.1)
    (hbehind : '/' ∉ codeBehind s ∨ '*' ∉ codeBehind s) : OpensNone s where
  before := fun q hq => not_opener_strip (hbefore q hq)
  behind := by
    intro hcommented
    obtain ⟨i, -, -, hopen, -⟩ := hcommented
    exact not_opener_strip hbehind (hopen.isInfix.trans (List.drop_suffix i _).isInfix)

/-- Cleaning never makes comments fewer. -/
theorem length_comments_le (s : Text) :
    (comments s).length ≤ (comments (stripAroundComments s)).length := by
  have h := length_le_comments_written (isComment_of_mem_stripPiece s) (strip (codeBehind s))
  rw [List.length_map] at h
  rw [stripAroundComments_eq_written, ← map_snd_pieces, List.length_map]
  exact h

/--
**Cleaned text falls into the stripped code and the comments of the text exactly
if stripping makes no comment, and then it holds the same comments. That is so
where no stretch of code holds both a slash and a star. In any case the cleaned
text holds no fewer comments.**
-/
theorem comments_stripAroundComments (s : Text) :
    (OpensNone s ↔ pieces (stripAroundComments s) = (pieces s).map stripPiece ∧
      codeBehind (stripAroundComments s) = strip (codeBehind s)) ∧
    (OpensNone s → comments (stripAroundComments s) = comments s) ∧
    ((∀ q ∈ pieces s, '/' ∉ q.1 ∨ '*' ∉ q.1) → ('/' ∉ codeBehind s ∨ '*' ∉ codeBehind s) →
      comments (stripAroundComments s) = comments s) ∧
    (comments s).length ≤ (comments (stripAroundComments s)).length :=
  ⟨opensNone_iff s, OpensNone.comments_eq,
    fun hbefore hbehind => (opensNone_of_parted hbefore hbehind).comments_eq, length_comments_le s⟩

/-- A mark between a slash and a star may go, if not two stars are left behind the slash. -/
theorem comments_stripAroundComments_apart :
    OpensNone "/@Inherited* /** A */@Inherited/".toList ∧
    comments (stripAroundComments "/@Inherited* /** A */@Inherited/".toList) =
      comments "/@Inherited* /** A */@Inherited/".toList := by
  have hbehind : ¬ Commented (strip (codeBehind "/@Inherited* /** A */@Inherited/".toList)) :=
    first?_eq_none_iff.1 (by decide +kernel)
  have h : OpensNone "/@Inherited* /** A */@Inherited/".toList := ⟨by decide +kernel, hbehind⟩
  exact ⟨h, (comments_stripAroundComments _).2.1 h⟩

/-- A source with a mark between a slash and two stars, before its second comment. -/
def partedOpener : Text :=
  "/** A. */\n/@Inherited** /** B. */\npublic @interface Foo \x7b\n\x7d\n".toList

/-- Where a mark has parted an opener, the comment behind it becomes the end of another one. -/
theorem comment_absorbed :
    ¬ ∀ (name source : Text) (parts : Declaration), name.IsWord →
      Declaration.locate name source = .ok parts →
      comments (stripAroundComments parts.header) = comments parts.header := by
  intro hsame
  have hname : Text.IsWord "Foo".toList := ⟨by decide, List.all_eq_true.1 (by decide +kernel)⟩
  have h : Declaration.locate "Foo".toList partedOpener =
      .ok ⟨"/** A. */\n/@Inherited** /** B. */\npublic @interface Foo".toList,
        "\x7b\n\x7d".toList⟩ := by
    decide +kernel
  have hbefore : comments "/** A. */\n/@Inherited** /** B. */\npublic @interface Foo".toList =
      ["/** A. */".toList, "/** B. */".toList] := by decide +kernel
  have hafter : comments (stripAroundComments
      "/** A. */\n/@Inherited** /** B. */\npublic @interface Foo".toList) =
      ["/** A. */".toList, "/** /** B. */".toList] := by decide +kernel
  have heq := hsame _ _ _ hname h
  rw [hbefore, hafter] at heq
  exact absurd heq (by decide)

end Plumbing

end TraitDoc
