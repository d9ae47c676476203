import TraitDoc.Member
import TraitDoc.Proofs.Reach
/-!
# The line of the value member

The value member of a body is looked for from each line start, and from there
white space is skipped over any number of lines. So one and the same member can
be found from several line starts, and it is found from the first of them. What
differs is only which part of the white space before the type counts as skipped;
in the declared body that makes no difference.

With that the search has a plain reading by lines: the first line that holds the
marker decides. The type runs from the first character of that line that is not
white space to the marker, without the spaces before the marker.

## Main definitions

* `Member.Parts`, `Member.parts?` — a body around the type of its value member.
* `Member.FirstMarked` — the first line that holds the marker.
* `Member.Declared` — what becomes of a body where its type and marker stand at
  given offsets.

## Main statements

* `Member.parts?_append_lineFeed` — a line without marker is passed over.
* `Member.parts?_append` — a line with the marker decides.
* `Member.declare_by_lines` — a body is declared as its lines say.
-/

namespace TraitDoc

namespace Text

theorem indexOf?_eq_none_iff_not_infix {word s : Text} :
    indexOf? word s = none ↔ ¬ word <:+: s := by
  rw [indexOf?_eq_none_iff]
  constructor
  · intro h hinfix
    obtain ⟨front, rest, rfl⟩ := hinfix
    apply h front.length (by simp)
    rw [List.append_assoc, List.drop_left]
    exact List.prefix_append word rest
  · intro h i _ hprefix
    have hinfix : word <:+: s := hprefix.isInfix.trans (List.drop_suffix i s).isInfix
    exact h hinfix

/-- White space in front of a text moves a word in it, if the word does not begin with white space. -/
theorem indexOf?_append_of_blank {d : Char} {word gap : Text} (hd : TraitDoc.isBlank d = false)
    (hgap : ∀ c ∈ gap, TraitDoc.isBlank c = true) (s : Text) :
    indexOf? (d :: word) (gap ++ s) = (indexOf? (d :: word) s).map (· + gap.length) := by
  induction gap with
  | nil => simp
  | cons c gap ih =>
    have hnot : ¬ d :: word <+: c :: (gap ++ s) := by
      intro hprefix
      have hc : TraitDoc.isBlank c = true := hgap c (by simp)
      rw [← (List.cons_prefix_cons.1 hprefix).1, hd] at hc
      cases hc
    rw [List.cons_append, indexOf?_cons_of_not hnot, ih fun b hb => hgap b (by simp [hb])]
    cases indexOf? (d :: word) s with
    | none => rfl
    | some i => simp [Nat.add_assoc]

end Text

/-! ## Types of value members -/

theorem traitType_eq_ok {valueType type : Text} (h : (valueType, type) ∈ typeTable) :
    traitType valueType = .ok type := by
  simp only [typeTable, List.mem_cons, List.not_mem_nil, or_false, Prod.mk.injEq] at h
  rcases h with ⟨rfl, rfl⟩ | ⟨rfl, rfl⟩ | ⟨rfl, rfl⟩ <;> decide

private theorem mem_typeTable_of_lookup {valueType type : Text}
    (h : typeTable.lookup valueType = some type) : (valueType, type) ∈ typeTable := by
  obtain ⟨before, after, htable, -⟩ := List.lookup_eq_some_iff.1 h
  rw [htable]
  simp

theorem mem_typeTable_of_traitType {valueType type : Text} (h : traitType valueType = .ok type) :
    (valueType, type) ∈ typeTable := by
  unfold traitType at h
  split at h
  · rename_i found hfound
    rw [Except.ok.inj h] at hfound
    exact mem_typeTable_of_lookup hfound
  · cases h

theorem traitType_eq_error {valueType : Text} (h : ∀ type, (valueType, type) ∉ typeTable) :
    traitType valueType = .error ⟨valueType⟩ := by
  unfold traitType
  split
  · rename_i type hfound
    exact absurd (mem_typeTable_of_lookup hfound) (h type)
  · rfl

namespace Member

/-! ## A body around the type -/

/-- What stands before the type of a value member, the type, and what stands behind the marker. -/
structure Parts where
  lead : Text
  valueType : Text
  after : Text

/-- The same parts, behind `front`. -/
def Parts.behind (front : Text) (p : Parts) : Parts := { p with lead := front ++ p.lead }

/-- The body around a member: where in the white space the search began is left out. -/
def parts (m : Member) : Parts := ⟨m.before ++ m.indent, m.valueType, m.after⟩

/-- The body around the type of its first value member. -/
def parts? (body : Text) : Option Parts := (find? body).map parts

theorem declare_of_none {body : Text} (h : parts? body = none) : declare body = .ok [] := by
  have hfind : find? body = none := Option.map_eq_none_iff.1 h
  rw [declare, hfind]

theorem declare_of_some {body : Text} {p : Parts} (h : parts? body = some p) :
    declare body = (traitType p.valueType).map fun type =>
      p.lead ++ (method ++ type) ++ p.after := by
  obtain ⟨m, hfind, rfl⟩ := Option.map_eq_some_iff.1 h
  rw [declare, hfind]
  show (traitType m.valueType >>= fun type =>
    pure (m.before ++ m.indent ++ method ++ type ++ m.after)) = _
  cases htype : traitType m.valueType with
  | error fault => simp [parts, htype, Except.map, bind, Except.bind]
  | ok type => simp [parts, htype, Except.map, bind, Except.bind, pure, Except.pure]

/-! ## Line by line -/

theorem findFrom?_nil (b : Bool) : findFrom? b [] = none := by
  have hhere : (if b then atLineStart? [] else none) = none := by
    split
    · rfl
    · rfl
  rw [findFrom?.eq_def, hhere]

/-- The search ends at a line start with a member. -/
theorem findFrom?_of_atLineStart? {s : Text} {m : Member} (h : atLineStart? s = some m) :
    findFrom? true s = some m := by
  unfold findFrom?
  rw [if_pos rfl, h]

/-- At any other place it goes on. -/
theorem findFrom?_cons {b : Bool} {c : Char} {s : Text}
    (h : b = true → atLineStart? (c :: s) = none) :
    findFrom? b (c :: s) =
      (findFrom? (c == '\n') s).map fun m => { m with before := c :: m.before } := by
  have hhere : (if b then atLineStart? (c :: s) else none) = none := by
    split
    · rename_i hb
      exact h hb
    · rfl
  rw [findFrom?.eq_def, hhere]

/-- From a line start without a member the search goes on behind the line. -/
theorem findFrom?_append_lineFeed {l : Text} (hl : '\n' ∉ l) {s : Text} {b : Bool}
    (h : b = true → atLineStart? (l ++ '\n' :: s) = none) :
    findFrom? b (l ++ '\n' :: s) =
      (find? s).map fun m => { m with before := l ++ '\n' :: m.before } := by
  induction l generalizing b with
  | nil => exact findFrom?_cons h
  | cons c l ih =>
    have hne : '\n' ≠ c ∧ '\n' ∉ l := by simpa using hl
    have hc : (c == '\n') = false := by simpa using Ne.symm hne.1
    rw [List.cons_append] at h
    rw [List.cons_append, findFrom?_cons h, hc, ih hne.2 (by simp), Option.map_map]
    rfl

/-- The last line holds no line start but its own. -/
theorem findFrom?_of_not_mem {l : Text} (hl : '\n' ∉ l) {b : Bool}
    (h : b = true → atLineStart? l = none) : findFrom? b l = none := by
  induction l generalizing b with
  | nil => exact findFrom?_nil b
  | cons c l ih =>
    have hne : '\n' ≠ c ∧ '\n' ∉ l := by simpa using hl
    have hc : (c == '\n') = false := by simpa using Ne.symm hne.1
    rw [findFrom?_cons h, hc, ih hne.2 (by simp)]
    rfl

/-- From a blank line the search is that of the next line start, with more white space skipped. -/
private theorem atLineStart?_append_of_blank {gap : Text} (hgap : ∀ c ∈ gap, isBlank c = true)
    (s : Text) : atLineStart? (gap ++ s) =
      (atLineStart? s).map fun m => { m with indent := gap ++ m.indent } := by
  unfold atLineStart?
  rw [List.dropWhile_append_of_pos hgap, List.takeWhile_append_of_pos hgap]
  dsimp only
  cases Text.indexOf? marker (Text.line (s.dropWhile isBlank)) with
  | none => rfl
  | some k => rfl

/-- From a line with content the search looks at that line only. -/
private theorem atLineStart?_append_of_content {l rest : Text} (hl : '\n' ∉ l)
    (hrest : Text.line rest = []) (hcontent : l.dropWhile isBlank ≠ []) :
    atLineStart? (l ++ rest) = (Text.indexOf? marker (l.dropWhile isBlank)).map fun k =>
      { before := []
        indent := l.takeWhile isBlank
        valueType := Text.dropTrailing ' ' ((l.dropWhile isBlank).take k)
        after := (l.dropWhile isBlank).drop (k + marker.length) ++ rest } := by
  have hfeed : '\n' ∉ l.dropWhile isBlank := fun h => hl ((List.dropWhile_suffix _).subset h)
  have hdrop : (l ++ rest).dropWhile isBlank = l.dropWhile isBlank ++ rest := by
    rw [List.dropWhile_append, if_neg (by simpa using hcontent)]
  have htake : (l ++ rest).takeWhile isBlank = l.takeWhile isBlank := by
    have hsplit : (l ++ rest).takeWhile isBlank ++ (l.dropWhile isBlank ++ rest) =
        l.takeWhile isBlank ++ (l.dropWhile isBlank ++ rest) := by
      rw [← hdrop, List.takeWhile_append_dropWhile, hdrop, ← List.append_assoc,
        List.takeWhile_append_dropWhile]
    exact List.append_cancel_right hsplit
  unfold atLineStart?
  dsimp only
  rw [htake, hdrop, Text.line_append_of_not_mem hfeed, hrest, List.append_nil]
  cases hk : Text.indexOf? marker (l.dropWhile isBlank) with
  | none => rfl
  | some k =>
    have hfit := Text.indexOf?_add_length_le hk
    have hle : k ≤ (l.dropWhile isBlank).length := by omega
    show some _ = some _
    rw [List.take_append_of_le_length hle, List.drop_append_of_le_length hfit]

theorem before_of_atLineStart? {s : Text} {m : Member} (h : atLineStart? s = some m) :
    m.before = [] := by
  unfold atLineStart? at h
  dsimp only at h
  obtain ⟨k, -, hm⟩ := Option.bind_eq_some_iff.1 h
  rw [← Option.some.inj hm]

/-- The marker is where it is in the line without the white space that the line begins with. -/
theorem indexOf?_marker_eq (l : Text) : Text.indexOf? marker l =
    (Text.indexOf? marker (l.dropWhile isBlank)).map (· + (l.takeWhile isBlank).length) := by
  have hblank : ∀ c ∈ l.takeWhile isBlank, isBlank c = true :=
    fun c hc => List.all_eq_true.1 List.all_takeWhile c hc
  have hmove : Text.indexOf? ('v' :: "alue();".toList) (l.takeWhile isBlank ++ l.dropWhile isBlank) =
      (Text.indexOf? marker (l.dropWhile isBlank)).map (· + (l.takeWhile isBlank).length) :=
    Text.indexOf?_append_of_blank (by decide) hblank _
  rw [List.takeWhile_append_dropWhile] at hmove
  exact hmove

/-- A line without the marker is passed over. -/
theorem parts?_append_lineFeed {l : Text} (hl : '\n' ∉ l) (hmarker : Text.indexOf? marker l = none)
    (s : Text) : parts? (l ++ '\n' :: s) = (parts? s).map (Parts.behind (l ++ ['\n'])) := by
  have hskip : atLineStart? (l ++ '\n' :: s) = none →
      parts? (l ++ '\n' :: s) = (parts? s).map (Parts.behind (l ++ ['\n'])) := by
    intro hnone
    rw [parts?, find?, findFrom?_append_lineFeed hl fun _ => hnone, parts?, Option.map_map,
      Option.map_map]
    refine congrArg (fun f => (find? s).map f) (funext fun m => ?_)
    simp [parts, Parts.behind]
  by_cases hblank : l.dropWhile isBlank = []
  · have hall : ∀ c ∈ l ++ ['\n'], isBlank c = true := by
      intro c hc
      rcases List.mem_append.1 hc with hc | hc
      · exact List.dropWhile_eq_nil_iff.1 hblank c hc
      · rw [List.mem_singleton.1 hc]
        decide
    have hhere := atLineStart?_append_of_blank hall s
    rw [List.append_assoc, List.singleton_append] at hhere
    cases hs : atLineStart? s with
    | none =>
      rw [hs] at hhere
      exact hskip hhere
    | some m =>
      -- the member of the next line start is found from this one already
      rw [hs] at hhere
      rw [parts?, find?, findFrom?_of_atLineStart? hhere, parts?, find?,
        findFrom?_of_atLineStart? hs]
      simp [parts, Parts.behind, before_of_atLineStart? hs]
  · apply hskip
    rw [indexOf?_marker_eq, Option.map_eq_none_iff] at hmarker
    rw [atLineStart?_append_of_content hl rfl hblank, hmarker]
    rfl

/-- A last line without the marker has no member. -/
theorem parts?_of_not_mem {l : Text} (hl : '\n' ∉ l) (hmarker : Text.indexOf? marker l = none) :
    parts? l = none := by
  have hhere : atLineStart? l = none := by
    rw [indexOf?_marker_eq, Option.map_eq_none_iff] at hmarker
    have hfeed : '\n' ∉ l.dropWhile isBlank := fun h => hl ((List.dropWhile_suffix _).subset h)
    unfold atLineStart?
    dsimp only
    rw [Text.line_of_not_mem hfeed, hmarker]
    rfl
  rw [parts?, find?, findFrom?_of_not_mem hl fun _ => hhere]
  rfl

/-- A line with the marker has the member: between the white space it begins with and the marker stands the type. -/
theorem parts?_append {l rest : Text} (hl : '\n' ∉ l) (hrest : Text.line rest = []) {k : Nat}
    (hk : Text.indexOf? marker l = some k) :
    ∃ written tail, l = l.takeWhile isBlank ++ (written ++ (marker ++ tail)) ∧
      k = (l.takeWhile isBlank).length + written.length ∧
      parts? (l ++ rest) = some
        { lead := l.takeWhile isBlank
          valueType := Text.dropTrailing ' ' written
          after := tail ++ rest } := by
  rw [indexOf?_marker_eq, Option.map_eq_some_iff] at hk
  obtain ⟨i, hi, rfl⟩ := hk
  obtain ⟨hle, ⟨tail, htail⟩, -⟩ := Text.indexOf?_eq_some_iff.1 hi
  have hcontent : l.dropWhile isBlank ≠ [] := by
    intro hnil
    rw [hnil] at hi
    cases hi
  have hsplit : (l.dropWhile isBlank).take i ++ (marker ++ tail) = l.dropWhile isBlank := by
    rw [htail, List.take_append_drop]
  have hafter : (l.dropWhile isBlank).drop (i + marker.length) = tail := by
    rw [← List.drop_drop, ← htail, List.drop_left]
  have hhere := atLineStart?_append_of_content hl hrest hcontent
  rw [hi] at hhere
  refine ⟨(l.dropWhile isBlank).take i, tail, ?_, ?_, ?_⟩
  · rw [hsplit, List.takeWhile_append_dropWhile]
  · rw [List.length_take, Nat.min_eq_left hle, Nat.add_comm]
  · rw [parts?, find?, findFrom?_of_atLineStart? hhere, ← hafter]
    rfl

private theorem eq_of_parts?_append {l rest : Text} {k : Nat} {p : Parts} (hl : '\n' ∉ l)
    (hrest : Text.line rest = []) (hk : Text.indexOf? marker l = some k)
    (h : parts? (l ++ rest) = some p) :
    ∃ written, l ++ rest = p.lead ++ (written ++ (marker ++ p.after)) ∧
      p.valueType = Text.dropTrailing ' ' written ∧ '\n' ∉ written := by
  obtain ⟨written, tail, hsplit, -, hparts⟩ := parts?_append hl hrest hk
  obtain rfl := Option.some.inj (hparts.symm.trans h)
  refine ⟨written, ?_, rfl, fun hfeed => hl ?_⟩
  · conv => lhs; rw [hsplit]
    simp only [List.append_assoc]
  · rw [hsplit]
    simp [hfeed]

/-- A body around its value member is that body, the type and the marker standing on one line. -/
theorem eq_of_parts? {body : Text} {p : Parts} (h : parts? body = some p) :
    ∃ written, body = p.lead ++ (written ++ (marker ++ p.after)) ∧
      p.valueType = Text.dropTrailing ' ' written ∧ '\n' ∉ written := by
  induction body using Text.line_induction generalizing p with
  | line l hl =>
    cases hk : Text.indexOf? marker l with
    | none =>
      rw [parts?_of_not_mem hl hk] at h
      cases h
    | some k =>
      rw [← List.append_nil l] at h
      obtain ⟨written, hwritten⟩ := eq_of_parts?_append hl rfl hk h
      rw [List.append_nil] at hwritten
      exact ⟨written, hwritten⟩
  | feed l s hl ih =>
    cases hk : Text.indexOf? marker l with
    | none =>
      rw [parts?_append_lineFeed hl hk, Option.map_eq_some_iff] at h
      obtain ⟨q, hq, rfl⟩ := h
      obtain ⟨written, hs, htype, hfeed⟩ := ih hq
      exact ⟨written, by rw [hs]; simp [Parts.behind], htype, hfeed⟩
    | some k => exact eq_of_parts?_append hl rfl hk h

/-! ## The first line that holds the marker -/

/-- The first line of the body that holds the marker is `line`, and it begins at `start`. -/
structure FirstMarked (body : Text) (start : Nat) (line : Text) : Prop where
  lines : ∃ before after, Text.splitAt '\n' body = before ++ line :: after ∧
    (before.flatMap fun earlier => earlier ++ ['\n']).length = start ∧
    ∀ earlier ∈ before, ¬ marker <:+: earlier
  marked : marker <:+: line

/-- The value type that stands between two offsets, without the spaces at its end. -/
def typeBetween (body : Text) (i q : Nat) : Text := Text.dropTrailing ' ' ((body.take q).drop i)

theorem FirstMarked.behind {l s line : Text} {start : Nat} (hl : '\n' ∉ l)
    (hmarker : ¬ marker <:+: l) (h : FirstMarked s start line) :
    FirstMarked (l ++ '\n' :: s) ((l ++ ['\n']).length + start) line where
  lines := by
    obtain ⟨before, after, hsplit, hstart, hbefore⟩ := h.lines
    refine ⟨l :: before, after, ?_, ?_, ?_⟩
    · rw [Text.splitAt_append_cons hl, hsplit, List.cons_append]
    · rw [List.flatMap_cons, List.length_append, hstart]
    · intro earlier hearlier
      rcases List.mem_cons.1 hearlier with rfl | hearlier
      · exact hmarker
      · exact hbefore earlier hearlier
  marked := h.marked

/-- Where the first line holds the marker it decides. -/
private theorem parts?_of_first {l rest : Text} {k : Nat} (hl : '\n' ∉ l)
    (hrest : rest = [] ∨ ∃ s, rest = '\n' :: s) (hk : Text.indexOf? marker l = some k) :
    FirstMarked (l ++ rest) 0 l ∧ (l.takeWhile isBlank).length ≤ k ∧ parts? (l ++ rest) = some
      { lead := (l ++ rest).take (l.takeWhile isBlank).length
        valueType := typeBetween (l ++ rest) (l.takeWhile isBlank).length k
        after := (l ++ rest).drop (k + marker.length) } := by
  have hline : Text.line rest = [] := by
    rcases hrest with rfl | ⟨s, rfl⟩
    · rfl
    · rfl
  have hlines : ∃ after, Text.splitAt '\n' (l ++ rest) = l :: after := by
    rcases hrest with rfl | ⟨s, rfl⟩
    · exact ⟨[], by rw [List.append_nil, Text.splitAt_of_not_mem hl]⟩
    · exact ⟨_, Text.splitAt_append_cons hl s⟩
  obtain ⟨after, hafter⟩ := hlines
  obtain ⟨written, tail, hsplit, rfl, hparts⟩ := parts?_append hl hline hk
  have hbody : l ++ rest = l.takeWhile isBlank ++ (written ++ (marker ++ (tail ++ rest))) := by
    conv => lhs; rw [hsplit]
    simp only [List.append_assoc]
  refine ⟨⟨⟨[], after, hafter, rfl, by simp⟩, ?_⟩, Nat.le_add_right _ _, ?_⟩
  · rw [hsplit]
    exact ⟨l.takeWhile isBlank ++ written, tail, by simp only [List.append_assoc]⟩
  · rw [hparts, typeBetween, hbody, List.take_left, List.take_length_add_append, List.take_left,
      List.drop_left, Nat.add_assoc, List.drop_length_add_append, List.drop_length_add_append,
      List.drop_left]

/-- Where the marker stands on no line there is no member, and otherwise the first line with it decides. -/
theorem parts?_by_lines (body : Text) :
    ((∀ line ∈ Text.splitAt '\n' body, ¬ marker <:+: line) ∧ parts? body = none) ∨
    ∃ start line k, FirstMarked body start line ∧ Text.indexOf? marker line = some k ∧
      (line.takeWhile isBlank).length ≤ k ∧ parts? body = some
        { lead := body.take (start + (line.takeWhile isBlank).length)
          valueType := typeBetween body (start + (line.takeWhile isBlank).length) (start + k)
          after := body.drop (start + k + marker.length) } := by
  induction body using Text.line_induction with
  | line l hl =>
    cases hk : Text.indexOf? marker l with
    | none =>
      refine .inl ⟨fun line hline => ?_, parts?_of_not_mem hl hk⟩
      rw [Text.splitAt_of_not_mem hl, List.mem_singleton] at hline
      rw [hline]
      exact Text.indexOf?_eq_none_iff_not_infix.1 hk
    | some k =>
      obtain ⟨hfirst, hle, hparts⟩ := parts?_of_first hl (.inl rfl) hk
      rw [List.append_nil] at hfirst hparts
      refine .inr ⟨0, l, k, hfirst, hk, hle, ?_⟩
      rw [Nat.zero_add, Nat.zero_add]
      exact hparts
  | feed l s hl ih =>
    cases hk : Text.indexOf? marker l with
    | none =>
      have hmarker := Text.indexOf?_eq_none_iff_not_infix.1 hk
      have hassoc : l ++ '\n' :: s = (l ++ ['\n']) ++ s := by simp
      rcases ih with ⟨hnone, hparts⟩ | ⟨start, line, k, hfirst, hk', hle, hparts⟩
      · refine .inl ⟨fun line hline => ?_, ?_⟩
        · rw [Text.splitAt_append_cons hl] at hline
          rcases List.mem_cons.1 hline with rfl | hline
          · exact hmarker
          · exact hnone line hline
        · rw [parts?_append_lineFeed hl hk, hparts]
          rfl
      · refine .inr ⟨_, line, k, hfirst.behind hl hmarker, hk', hle, ?_⟩
        rw [parts?_append_lineFeed hl hk, hparts, hassoc]
        simp only [typeBetween, Nat.add_assoc, List.take_length_add_append,
          List.drop_length_add_append]
        rfl
    | some k =>
      obtain ⟨hfirst, hle, hparts⟩ := parts?_of_first hl (.inr ⟨s, rfl⟩) hk
      refine .inr ⟨0, l, k, hfirst, hk, hle, ?_⟩
      rw [Nat.zero_add, Nat.zero_add]
      exact hparts

/-! ## The declared body -/

/--
What becomes of a body whose type begins at `i` and whose marker stands at `q`:
if the type is in the table, the type and the marker are replaced and nothing
else is; otherwise the fault names the type.
-/
structure Declared (body : Text) (i q : Nat) : Prop where
  le : i ≤ q
  known : ∀ type, (typeBetween body i q, type) ∈ typeTable →
    declare body = .ok (body.take i ++ ("def value(): ".toList ++ type) ++ body.drop (q + 8))
  unknown : (∀ type, (typeBetween body i q, type) ∉ typeTable) →
    declare body = .error ⟨typeBetween body i q⟩

/--
**A body is declared as its lines say: without a line that holds the marker
nothing is left of it. Otherwise the first such line decides, from its first
character that is not white space to the first marker on it.**
-/
theorem declare_by_lines (body : Text) :
    ((∀ line ∈ Text.splitAt '\n' body, ¬ marker <:+: line) ∧ declare body = .ok []) ∨
    ∃ start line k, FirstMarked body start line ∧ Text.indexOf? marker line = some k ∧
      Declared body (start + (line.takeWhile isBlank).length) (start + k) := by
  rcases parts?_by_lines body with ⟨hnone, hparts⟩ | ⟨start, line, k, hfirst, hk, hle, hparts⟩
  · exact .inl ⟨hnone, declare_of_none hparts⟩
  · refine .inr ⟨start, line, k, hfirst, hk, ?_⟩
    have hdeclare := declare_of_some hparts
    exact
      { le := Nat.add_le_add_left hle start
        known := by
          intro type htype
          rw [hdeclare, traitType_eq_ok htype]
          rfl
        unknown := by
          intro htype
          rw [hdeclare, traitType_eq_error htype]
          rfl }

end Member

end TraitDoc
