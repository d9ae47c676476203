import TraitDoc.Proofs.Origins
import TraitDoc.Proofs.Reach
/-!
# Stripping line by line

None of the seven rules removes a line feed or looks behind one: a mark with its
arguments ends on the line on which it begins, and an import is a line. Each
pass therefore runs line by line, and so do all of them together. What a pass
does to a line does not depend on where the line stands, so the lines of the
stripped code are the stripped lines of the code.

## Main statements

* `Plumbing.keepsToLine_of_mem` — every rule keeps to its line.
* `Text.count_removeAll` — a pass that keeps to its line keeps the line feeds.
* `Plumbing.strip_by_lines` — code is stripped line by line.
-/

namespace TraitDoc

/-- A rule that keeps to its line keeps the line feeds. -/
theorem Text.count_removeAll {rule : StretchRule} (h : rule.KeepsToLine) (s : Text) :
    (removeAll rule s).count '\n' = s.count '\n' := by
  induction s using line_induction with
  | line l hl =>
    have hleft : '\n' ∉ removeAll rule l := fun hin => hl ((removeAll_sublist rule l).subset hin)
    rw [List.count_eq_zero_of_not_mem hl, List.count_eq_zero_of_not_mem hleft]
  | feed l s hl ih =>
    have hleft : '\n' ∉ removeAll rule l := fun hin => hl ((removeAll_sublist rule l).subset hin)
    rw [removeAll_append_lineFeed h, List.count_append, List.count_append,
      List.count_eq_zero_of_not_mem hl, List.count_eq_zero_of_not_mem hleft, List.count_cons_self,
      List.count_cons_self, ih]

namespace Placed

/-- Where no line feed is lost in number, every single one is left. -/
theorem mem_of_count {s t : Placed} (ht : t.Sublist s)
    (hcount : (text t).count '\n' = (text s).count '\n') {place : Nat} (h : ('\n', place) ∈ s) :
    ('\n', place) ∈ t := by
  have hlength : ∀ u : Placed, (u.filter fun c => c.1 == '\n').length = (text u).count '\n' := by
    intro u
    rw [text, List.count, List.countP_map, List.countP_eq_length_filter]
    rfl
  have hfeeds : t.filter (fun c => c.1 == '\n') = s.filter fun c => c.1 == '\n' := by
    apply (ht.filter _).eq_of_length
    rw [hlength, hlength, hcount]
  have hmem : ('\n', place) ∈ s.filter fun c => c.1 == '\n' := List.mem_filter.2 ⟨h, by simp⟩
  rw [← hfeeds] at hmem
  exact (List.mem_filter.1 hmem).1

end Placed

namespace Plumbing

/-! ## Rules and passes -/

/-- A rule for a mark keeps to its line: what a line feed begins is out of reach. -/
theorem MarkRule.keepsToLine {mark : Text} {rule : StretchRule} (h : MarkRule mark rule) :
    rule.KeepsToLine where
  fits := h.fits
  blind := by
    intro b s t
    refine h.blind b s ('\n' :: t) ⟨⟨'\n', t, rfl, by decide⟩, ?_⟩
    simp [Text.line]

/-- Every rule keeps to its line. -/
theorem keepsToLine_of_mem {rule : StretchRule} (h : rule ∈ rules) : rule.KeepsToLine := by
  have hcases : rule ∈ rules.take 5 ∨ rule = declaringKeyword ∨ rule = importLine := by
    simpa [rules, or_assoc] using h
  rcases hcases with hmark | rfl | rfl
  · obtain ⟨mark, -, hrule⟩ := markRule_of_mem hmark
    exact hrule.keepsToLine
  · exact declaringKeyword_keepsToLine
  · exact importLine_keepsToLine

/-- Some passes, one after another, run line by line. -/
theorem foldl_removeAll_append_lineFeed {passes : List StretchRule}
    (h : ∀ rule ∈ passes, rule.KeepsToLine) (a b : Text) :
    passes.foldl (fun s rule => Text.removeAll rule s) (a ++ '\n' :: b) =
      passes.foldl (fun s rule => Text.removeAll rule s) a ++
        '\n' :: passes.foldl (fun s rule => Text.removeAll rule s) b := by
  induction passes generalizing a b with
  | nil => rfl
  | cons rule passes ih =>
    rw [List.foldl_cons, List.foldl_cons, List.foldl_cons,
      Text.removeAll_append_lineFeed (h rule (by simp))]
    exact ih (fun r hr => h r (by simp [hr])) _ _

theorem count_foldl_removeAll {passes : List StretchRule}
    (h : ∀ rule ∈ passes, rule.KeepsToLine) (s : Text) :
    (passes.foldl (fun s rule => Text.removeAll rule s) s).count '\n' = s.count '\n' := by
  induction passes generalizing s with
  | nil => rfl
  | cons rule passes ih =>
    rw [List.foldl_cons, ih (fun r hr => h r (by simp [hr])), Text.count_removeAll (h rule (by simp))]

/-! ## The lines of stripped code -/

theorem strip_append_lineFeed (a b : Text) : strip (a ++ '\n' :: b) = strip a ++ '\n' :: strip b :=
  foldl_removeAll_append_lineFeed (fun _ h => keepsToLine_of_mem h) a b

theorem count_strip (code : Text) : (strip code).count '\n' = code.count '\n' :=
  count_foldl_removeAll (fun _ h => keepsToLine_of_mem h) code

theorem not_mem_strip {l : Text} (h : '\n' ∉ l) : '\n' ∉ strip l :=
  fun hin => h ((strip_sublist l).subset hin)

/-- The lines of the stripped code are the stripped lines of the code. -/
theorem splitAt_strip (code : Text) :
    Text.splitAt '\n' (strip code) = (Text.splitAt '\n' code).map strip := by
  induction code using Text.line_induction with
  | line l hl =>
    rw [Text.splitAt_of_not_mem hl, Text.splitAt_of_not_mem (not_mem_strip hl)]
    rfl
  | feed l s hl ih =>
    rw [strip_append_lineFeed, Text.splitAt_append_cons hl,
      Text.splitAt_append_cons (not_mem_strip hl), ih]
    rfl

/-- Every line feed is left. -/
theorem mem_kept_of_lineFeed {code : Text} {place : Nat} (h : code[place]? = some '\n') :
    ('\n', place) ∈ kept code := by
  refine Placed.mem_of_count (Placed.passes_sublist rules (Placed.ofText code)) ?_ ?_
  · show (Placed.text (kept code)).count '\n' = _
    rw [text_kept, count_strip, Placed.text_ofText]
  · exact List.mem_zipIdx_iff_getElem?.2 h

/--
**Code is stripped line by line. So it keeps its line feeds, every line becomes
what it would become alone, and of a stretch that holds a line feed, as an
annotation whose parentheses are on two lines, that line feed at least is left.**
-/
theorem strip_by_lines :
    (∀ a b, strip (a ++ '\n' :: b) = strip a ++ '\n' :: strip b) ∧
    (∀ code, (strip code).count '\n' = code.count '\n') ∧
    (∀ code, Text.splitAt '\n' (strip code) = (Text.splitAt '\n' code).map strip) ∧
    ∀ front stretch rest : Text, '\n' ∈ stretch →
      ∃ place, front.length ≤ place ∧ place < front.length + stretch.length ∧
        ('\n', place) ∈ kept (front ++ (stretch ++ rest)) := by
  refine ⟨strip_append_lineFeed, count_strip, splitAt_strip, fun front stretch rest h => ?_⟩
  obtain ⟨i, hi, hget⟩ := List.getElem_of_mem h
  refine ⟨front.length + i, Nat.le_add_right _ i, Nat.add_lt_add_left hi _, mem_kept_of_lineFeed ?_⟩
  rw [List.getElem?_append_right (Nat.le_add_right _ i), Nat.add_sub_cancel_left,
    List.getElem?_append_left hi, List.getElem?_eq_getElem hi, hget]

/-- Of a target mark on two lines the line feed is left, so that it is not removed as a whole. -/
theorem strip_by_lines_target :
    '\n' ∈ "@Target(\nT)".toList ∧
      ∃ place, "x ".toList.length ≤ place ∧
        place < "x ".toList.length + "@Target(\nT)".toList.length ∧
        ('\n', place) ∈ kept ("x ".toList ++ ("@Target(\nT)".toList ++ " y".toList)) := by
  have hfeed : '\n' ∈ "@Target(\nT)".toList := by decide
  exact ⟨hfeed, strip_by_lines.2.2.2 _ _ _ hfeed⟩

end Plumbing

end TraitDoc
