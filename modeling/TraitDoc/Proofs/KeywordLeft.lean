import TraitDoc.Proofs.HeaderEnd
/-!
# Declaring keywords that are left

The declaration of a source is found by its keyword with any white space before
it, but the pass that removes the keyword asks for the visibility and nothing
but spaces in front of it. So a declaration without visibility, or with a tab or
a line feed behind it, is found and its keyword is not removed. The last pass
may still take it, with an import line that was never closed by a line feed.

This module says exactly when the keyword goes. Two passes can take it, each
together with what stands between some `rest` of the code and the keyword. What
they leave of `rest` comes to stand where the keyword stood, and may end in a
keyword again.

## Main definitions

* `Plumbing.EndsInKeyword` — the keyword stands at the end, before white space.
* `Text.IsLines` — whole lines.
* `Plumbing.TakesKeyword` — the two ways in which the keyword is taken.

## Main statements

* `Plumbing.not_endsInKeyword_cleanedBefore_iff` — when the keyword is gone from
  the end of cleaned code.
* `Trait.not_endsInKeyword_iff` — when the keyword is gone from the declaration
  of the trait.
* `Trait.keyword_left` — it is not always gone.
-/

namespace TraitDoc

open Plumbing

/-! ## Texts that end in the keyword -/

namespace Plumbing

/-- The text ends in the declaring keyword and white space, which may be empty. -/
def EndsInKeyword (s : Text) : Prop :=
  ∃ front gap, s = front ++ (keyword ++ gap) ∧ ∀ c ∈ gap, isBlank c = true

private theorem endsInKeyword_append_singleton {c : Char} (hc : isBlank c = true) (s : Text) :
    EndsInKeyword (s ++ [c]) ↔ EndsInKeyword s := by
  constructor
  · intro h
    obtain ⟨front, gap, hs, hgap⟩ := h
    by_cases hnil : gap = []
    · -- the keyword itself does not end in a blank
      have hlast : (s ++ [c]).getLast? = some 'e' := by
        rw [hs, hnil, List.append_nil, List.getLast?_append]
        rfl
      rw [List.getLast?_append] at hlast
      have hce : c = 'e' := Option.some.inj hlast
      rw [hce] at hc
      exact absurd hc (by decide)
    · have hsplit := List.dropLast_concat_getLast hnil
      rw [← hsplit, ← List.append_assoc keyword, ← List.append_assoc front] at hs
      refine ⟨front, gap.dropLast, (List.append_inj' hs rfl).1, fun d hd => hgap d ?_⟩
      exact List.dropLast_subset gap hd
  · intro h
    obtain ⟨front, gap, rfl, hgap⟩ := h
    refine ⟨front, gap ++ [c], by simp only [List.append_assoc], fun d hd => ?_⟩
    rcases List.mem_append.1 hd with hd | hd
    · exact hgap d hd
    · rw [List.mem_singleton.1 hd]
      exact hc

/-- Behind a slash the keyword stands whole or not at all. -/
theorem endsInKeyword_append_of_slash {through : Text} (h : through.getLast? = some '/') (s : Text) :
    EndsInKeyword (through ++ s) ↔ EndsInKeyword s := by
  constructor
  · intro hend
    obtain ⟨front, gap, hs, hgap⟩ := hend
    have hslash : '/' ∉ keyword ++ gap := by
      rw [List.mem_append, not_or]
      refine ⟨by decide, fun hin => ?_⟩
      exact absurd (hgap '/' hin) (by decide)
    rcases List.append_eq_append_iff.1 hs with ⟨mid, hmid, hrest⟩ | ⟨mid, hmid, hrest⟩
    · exact ⟨mid, gap, hrest, hgap⟩
    · -- the keyword would begin before the end of `through`
      by_cases hnil : mid = []
      · rw [hnil, List.nil_append] at hrest
        exact ⟨[], gap, hrest.symm, hgap⟩
      · have hin : '/' ∈ mid := by
          rw [hmid, List.getLast?_append, List.getLast?_eq_some_getLast hnil] at h
          have hlast : mid.getLast hnil = '/' := Option.some.inj h
          rw [← hlast]
          exact List.getLast_mem hnil
        rw [hrest] at hslash
        exact absurd (List.mem_append_left s hin) hslash
  · intro hend
    obtain ⟨front, gap, rfl, hgap⟩ := hend
    exact ⟨through ++ front, gap, by rw [List.append_assoc], hgap⟩

end Plumbing

/-! ## Whole lines -/

namespace Text

/-- The text is made of whole lines, each with its line feed. -/
def IsLines (s : Text) : Prop := s = [] ∨ ∃ lines, s = lines ++ ['\n']

/-- A text is made of whole lines and a last line without line feed. -/
theorem exists_last_line (s : Text) :
    ∃ lines last, s = lines ++ last ∧ IsLines lines ∧ '\n' ∉ last := by
  induction s using line_induction with
  | line l hl => exact ⟨[], l, rfl, .inl rfl, hl⟩
  | feed l s hl ih =>
    obtain ⟨lines, last, rfl, hlines, hlast⟩ := ih
    refine ⟨l ++ '\n' :: lines, last, by simp, .inr ?_, hlast⟩
    rcases hlines with rfl | ⟨lines, rfl⟩
    · exact ⟨l, rfl⟩
    · exact ⟨l ++ '\n' :: lines, by simp⟩

/-- A rule that keeps to its line makes whole lines of whole lines, whatever follows. -/
theorem IsLines.removeAll_append {rule : StretchRule} (hrule : rule.KeepsToLine) {s : Text}
    (hs : s.IsLines) (t : Text) :
    removeAll rule (s ++ t) = removeAll rule s ++ removeAll rule t ∧
      IsLines (removeAll rule s) := by
  rcases hs with rfl | ⟨lines, rfl⟩
  · exact ⟨rfl, .inl rfl⟩
  · have hlines : removeAll rule (lines ++ ['\n']) = removeAll rule lines ++ ['\n'] :=
      removeAll_append_lineFeed hrule lines []
    refine ⟨?_, .inr ⟨_, hlines⟩⟩
    rw [hlines, List.append_assoc, List.append_assoc]
    exact removeAll_append_lineFeed hrule lines t

end Text

/-! ## The passes that take the keyword -/

namespace Plumbing

/-- Of a blank at the end the import pass takes nothing but that blank. -/
private theorem removeAll_importLine_append_blank {c : Char} (hc : isBlank c = true) (s : Text) :
    Text.removeAll importLine (s ++ [c]) = Text.removeAll importLine s ++ [c] ∨
      Text.removeAll importLine (s ++ [c]) = Text.removeAll importLine s := by
  have hword : c ∉ importWord := by
    intro hin
    have hall : ∀ d ∈ importWord, isBlank d = false := isBlank_eq_false_of_all (by decide)
    rw [hall c hin] at hc
    cases hc
  induction s using Text.line_induction with
  | line l hl =>
    by_cases hfeed : c = '\n'
    · rw [hfeed]
      exact .inl (removeAll_importLine_append_lineFeed l [])
    · have hline : '\n' ∉ l ++ [c] := by
        rw [List.mem_append, List.mem_singleton, not_or]
        exact ⟨hl, Ne.symm hfeed⟩
      rw [removeAll_importLine_of_not_mem hline, removeAll_importLine_of_not_mem hl,
        Text.isPrefixOf_append_cons hword]
      split
      · exact .inr rfl
      · exact .inl rfl
  | feed l s hl ih =>
    rw [List.append_assoc, List.cons_append, removeAll_importLine_append_lineFeed,
      removeAll_importLine_append_lineFeed]
    rcases ih with ih | ih
    · rw [ih]
      exact .inl (by simp)
    · rw [ih]
      exact .inr rfl

theorem endsInKeyword_removeAll_importLine {gap : Text} (hgap : ∀ c ∈ gap, isBlank c = true)
    (s : Text) : EndsInKeyword (Text.removeAll importLine (s ++ gap)) ↔
      EndsInKeyword (Text.removeAll importLine s) := by
  induction gap generalizing s with
  | nil => rw [List.append_nil]
  | cons c gap ih =>
    have hc : isBlank c = true := hgap c (by simp)
    have hsplit : s ++ c :: gap = s ++ [c] ++ gap := by simp
    rw [hsplit, ih (fun d hd => hgap d (by simp [hd]))]
    rcases removeAll_importLine_append_blank hc s with h | h
    · rw [h, endsInKeyword_append_singleton hc]
    · rw [h]

/--
The cleaning takes the keyword behind `code`, and with it what stands between
`rest` and the keyword: the visibility, or a last line that becomes an import.
-/
inductive TakesKeyword (code rest : Text) : Prop
  | visibility (n : Nat) (h : code = rest ++ visibility ++ List.replicate n ' ')
  | line (last : Text) (hcode : code = rest ++ last)
    (hpublic : ∀ front n, code ≠ front ++ Plumbing.visibility ++ List.replicate n ' ')
    (hlines : rest.IsLines) (hlast : '\n' ∉ last)
    (himport : importWord <+: Text.removeAll declaringKeyword last)

/-- The last line before the keyword decides whether the import pass takes the keyword. -/
private theorem removeAll_lines_append_keyword {lines last : Text} (hlines : lines.IsLines)
    (hlast : '\n' ∉ last) :
    Text.removeAll importLine (Text.removeAll declaringKeyword (lines ++ last) ++ keyword) =
      Text.removeAll importLine (Text.removeAll declaringKeyword lines) ++
        if importWord.isPrefixOf (Text.removeAll declaringKeyword last) then []
        else Text.removeAll declaringKeyword last ++ keyword := by
  obtain ⟨hsplit, hkept⟩ := hlines.removeAll_append declaringKeyword_keepsToLine last
  have hfeed : '\n' ∉ Text.removeAll declaringKeyword last ++ keyword := by
    rw [List.mem_append, not_or]
    exact ⟨fun hin => hlast ((Text.removeAll_sublist _ last).subset hin), by decide⟩
  have himport : importWord.isPrefixOf (Text.removeAll declaringKeyword last ++ keyword) =
      importWord.isPrefixOf (Text.removeAll declaringKeyword last) :=
    Text.isPrefixOf_append_cons (by decide)
  rw [hsplit, List.append_assoc, (hkept.removeAll_append importLine_keepsToLine _).1,
    removeAll_importLine_of_not_mem hfeed, himport]

/-- A keyword that is taken leaves the code as if it ended in `rest`. -/
theorem removeAll_of_takesKeyword {code rest : Text} (h : TakesKeyword code rest) :
    Text.removeAll importLine (Text.removeAll declaringKeyword (code ++ keyword)) =
      Text.removeAll importLine (Text.removeAll declaringKeyword rest) := by
  cases h with
  | visibility n h =>
    have hgone := removeAll_declaringKeyword_of_public rest n (show '@' ∉ [] by simp)
    rw [List.append_nil, List.append_nil, publicKeyword] at hgone
    rw [h, ← hgone]
    simp only [List.append_assoc]
  | line last hcode hpublic hlines hlast himport =>
    rw [removeAll_declaringKeyword_keyword hpublic, hcode,
      removeAll_lines_append_keyword hlines hlast,
      if_pos (List.isPrefixOf_iff_prefix.2 himport), List.append_nil]

/-- A keyword that is not taken stays where it is. -/
theorem endsInKeyword_of_not_takesKeyword {code : Text} (h : ∀ rest, ¬ TakesKeyword code rest) :
    EndsInKeyword (Text.removeAll importLine (Text.removeAll declaringKeyword (code ++ keyword))) := by
  have hpublic : ∀ front n, code ≠ front ++ visibility ++ List.replicate n ' ' :=
    fun front n hcode => h front (.visibility n hcode)
  obtain ⟨lines, last, hcode, hlines, hlast⟩ := Text.exists_last_line code
  have himport : ¬ importWord.isPrefixOf (Text.removeAll declaringKeyword last) = true := by
    intro hp
    exact h lines (.line last hcode hpublic hlines hlast (List.isPrefixOf_iff_prefix.1 hp))
  refine ⟨Text.removeAll importLine (Text.removeAll declaringKeyword lines) ++
    Text.removeAll declaringKeyword last, [], ?_, by simp⟩
  rw [removeAll_declaringKeyword_keyword hpublic, hcode,
    removeAll_lines_append_keyword hlines hlast, if_neg himport]
  simp only [List.append_assoc, List.append_nil]

/-- When the keyword is gone from the end of cleaned code. -/
theorem not_endsInKeyword_cleanedBefore_iff {before front : Text}
    (hfront : ∀ c ∈ front, isBlank c = true) :
    ¬ EndsInKeyword (cleanedBefore before front) ↔
      ∃ rest, TakesKeyword (stripAnnotations before) rest ∧
        ¬ EndsInKeyword (Text.removeAll importLine (Text.removeAll declaringKeyword rest)) := by
  rw [cleanedBefore, endsInKeyword_removeAll_importLine hfront]
  constructor
  · intro hgone
    by_cases htakes : ∃ rest, TakesKeyword (stripAnnotations before) rest
    · obtain ⟨rest, hrest⟩ := htakes
      rw [removeAll_of_takesKeyword hrest] at hgone
      exact ⟨rest, hrest, hgone⟩
    · exact absurd (endsInKeyword_of_not_takesKeyword (not_exists.1 htakes)) hgone
  · intro htakes
    obtain ⟨rest, hrest, hgone⟩ := htakes
    rw [removeAll_of_takesKeyword hrest]
    exact hgone

end Plumbing

/-! ## The declaration of a trait -/

namespace Trait

/--
**The declaring keyword is gone from before the trait exactly when a pass takes
it, and what the passes leave before it does not end in a keyword again.**
-/
theorem not_endsInKeyword_iff {name source text : Text} (hname : name.IsWord)
    (h : ofSource name source = .ok text) :
    ∃ parts before gap lead body, Declaration.locate name source = .ok parts ∧
      EndsInDeclaration name (DocComment.codeBehind parts.header) before gap ∧
      stripAroundComments parts.header = lead ++ name ∧ text = lead ++ declaration name body ∧
      (∃ front c, lead = front ++ [c] ∧ isBlank c = true) ∧
      (¬ EndsInKeyword lead ↔ ∃ rest, TakesKeyword (stripAnnotations before) rest ∧
        ¬ EndsInKeyword (Text.removeAll importLine (Text.removeAll declaringKeyword rest))) := by
  obtain ⟨parts, body, before, front, c, hparts, -, hc, hdecl, hstrip, rfl⟩ :=
    ofSource_eq_ok hname h
  have hspans := (Declaration.endsInDeclaration_of_locate hname hparts).1
  have hslash : (cleanedThrough parts.header 0 (DocComment.spans parts.header)).getLast? = some '/' :=
    getLast?_cleanedThrough hspans fun p hp => DocComment.getLast?_slice hp
  have hfront : ∀ d ∈ front, isBlank d = true :=
    fun d hd => hdecl.gap_blank d (List.mem_append_left [c] hd)
  refine ⟨parts, before, front ++ [c], _, body, hparts, hdecl, ?_, rfl, ?_, ?_⟩
  · rw [stripAroundComments_eq, hstrip]
    simp only [List.append_assoc, List.singleton_append]
  · exact ⟨_, c, (List.append_assoc _ _ _).symm, hc⟩
  · rw [endsInKeyword_append_of_slash hslash, endsInKeyword_append_singleton hc]
    exact not_endsInKeyword_cleanedBefore_iff hfront

/-- Without visibility the keyword goes with a line that begins with the import word. -/
theorem not_endsInKeyword_iff_foo :
    Text.IsWord "Foo".toList ∧
    ∃ text, ofSource "Foo".toList "/** D. */\nimport @interface\nFoo \x7b\x7d".toList = .ok text ∧
      ∃ parts before gap lead body,
        Declaration.locate "Foo".toList "/** D. */\nimport @interface\nFoo \x7b\x7d".toList =
          .ok parts ∧
        EndsInDeclaration "Foo".toList (DocComment.codeBehind parts.header) before gap ∧
        stripAroundComments parts.header = lead ++ "Foo".toList ∧
        text = lead ++ declaration "Foo".toList body ∧
        (∃ front c, lead = front ++ [c] ∧ isBlank c = true) ∧
        (¬ EndsInKeyword lead ↔ ∃ rest, TakesKeyword (stripAnnotations before) rest ∧
          ¬ EndsInKeyword (Text.removeAll importLine (Text.removeAll declaringKeyword rest))) := by
  have hname : Text.IsWord "Foo".toList := ⟨by decide, List.all_eq_true.1 (by decide +kernel)⟩
  have h : ofSource "Foo".toList "/** D. */\nimport @interface\nFoo \x7b\x7d".toList =
      .ok "/** D. */\n\ntrait Foo extends java.lang.annotation.Annotation \n".toList := by
    decide +kernel
  exact ⟨hname, _, h, not_endsInKeyword_iff hname h⟩

/-- The keyword of a declaration without visibility is left before the trait. -/
theorem keyword_left :
    ¬ ∀ name source text lead body : Text, name.IsWord → ofSource name source = .ok text →
      text = lead ++ declaration name body → ¬ EndsInKeyword lead := by
  intro hgone
  refine hgone "Foo".toList "/** Doc. */\n@interface Foo \x7b\n\x7d\n".toList
    ("/** Doc. */\n@interface ".toList ++ declaration "Foo".toList []) _ [] ?_ ?_ rfl ?_
  · exact ⟨by decide, List.all_eq_true.1 (by decide +kernel)⟩
  · decide +kernel
  · exact ⟨"/** Doc. */\n".toList, [' '], by decide, List.all_eq_true.1 (by decide)⟩

end Trait

end TraitDoc
