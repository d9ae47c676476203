import TraitDoc.Proofs.CommentSpans
import TraitDoc.Proofs.Reach
import TraitDoc.Trait
/-!
# The end of a header

The header of a source ends in the declaration that was found: white space, the
declaring keyword, white space, and the declared name. This end holds no slash,
so it stands behind the last comment of the header and is cleaned as code. The
trait can only be assembled if the name comes out of the cleaning at the very
end.

Six of the seven passes cannot touch it. A mark does not reach behind the white
space before the keyword, and the pass for the declaring keyword removes the
keyword or leaves it, but nothing behind it. The last pass goes by lines, and
the declaration is not the beginning of a line unless the passes before made it
one: where the last line begins with the import word, the name goes with the
line, and what is left ends in a line feed or in a comment.

## Main definitions

* `Text.IsWord` — what can be a declared name.
* `EndsInDeclaration` — code that ends in a declaration.
* `Plumbing.stripAnnotations`, `Plumbing.stripMarks` — the first five and the
  first six passes.
* `Plumbing.cleanedBefore` — what all passes leave of the code before the name.

## Main statements

* `Declaration.endsInDeclaration_of_locate` — the code behind the last comment of
  a header ends in the declaration.
* `EndsInDeclaration.stripMarks_eq`, `EndsInDeclaration.strip_eq` — what six and
  all passes leave of it.
* `Trait.ofParts_stripAroundComments_header` — when the trait of a header can be
  assembled.
* `Trait.ofSource_eq_ok` — what the trait of a source is made of.
-/

namespace TraitDoc

/-! ## Names -/

/-- A text that can be a declared name: it is not empty and has word characters only. -/
def Text.IsWord (s : Text) : Prop := s ≠ [] ∧ ∀ c ∈ s, TraitDoc.isWord c = true

theorem Text.IsWord.not_mem {s : Text} (h : s.IsWord) {c : Char} (hc : isWord c = false) :
    c ∉ s := by
  intro hin
  rw [h.2 c hin] at hc
  cases hc

theorem isWord_slash : isWord '/' = false := by decide +kernel

theorem isWord_at : isWord '@' = false := by decide +kernel

theorem isWord_close : isWord ')' = false := by decide +kernel

theorem isWord_lineFeed : isWord '\n' = false := isWord_eq_false_of_isBlank (by decide)

/-- A blank is none of the characters that are no blanks. -/
private theorem not_mem_blank {c d : Char} (hc : isBlank c = true) (hd : isBlank d = false) :
    d ∉ [c] := by
  intro hin
  rw [List.mem_singleton.1 hin, hc] at hd
  cases hd

/-! ## Code that ends in a declaration -/

/--
The code ends in a declaration of `name`: behind `before`, which ends in white
space, come the declaring keyword, the white space `gap`, and the name.
-/
structure EndsInDeclaration (name code before gap : Text) : Prop where
  code_eq : code = before ++ (Plumbing.keyword ++ (gap ++ name))
  before_blank : ∃ front c, before = front ++ [c] ∧ isBlank c = true
  gap_ne_nil : gap ≠ []
  gap_blank : ∀ c ∈ gap, isBlank c = true

namespace EndsInDeclaration

variable {name code before gap : Text}

theorem append_left (h : EndsInDeclaration name code before gap) (lead : Text) :
    EndsInDeclaration name (lead ++ code) (lead ++ before) gap where
  code_eq := by rw [h.code_eq, List.append_assoc]
  before_blank := by
    obtain ⟨front, c, hfront, hc⟩ := h.before_blank
    exact ⟨lead ++ front, c, by rw [hfront, List.append_assoc], hc⟩
  gap_ne_nil := h.gap_ne_nil
  gap_blank := h.gap_blank

/-- Behind the keyword stand blanks and word characters only. -/
theorem not_mem_tail (h : EndsInDeclaration name code before gap) (hname : name.IsWord) {c : Char}
    (hblank : isBlank c = false) (hword : isWord c = false) : c ∉ gap ++ name := by
  intro hc
  rcases List.mem_append.1 hc with hc | hc
  · rw [h.gap_blank c hc] at hblank
    cases hblank
  · exact hname.not_mem hword hc

end EndsInDeclaration

namespace Declaration

theorem exists_of_nameLength? {name s : Text} {blanks stop : Nat}
    (h : nameLength? name s blanks = some stop) :
    ∃ n, 1 ≤ n ∧ n ≤ blanks ∧ stop = n + name.length ∧ name <+: s.drop n ∧
      isBoundary (s.take stop).getLast? (s.drop stop).head? = true := by
  induction blanks with
  | zero => cases h
  | succ blanks ih =>
    rw [nameLength?] at h
    split at h
    · rename_i hhere
      rw [Bool.and_eq_true] at hhere
      have hstop : stop = blanks + 1 + name.length := (Option.some.inj h).symm
      refine ⟨blanks + 1, by omega, by omega, hstop, List.isPrefixOf_iff_prefix.1 hhere.1, ?_⟩
      rw [hstop]
      exact hhere.2
    · obtain ⟨n, hlo, hhi, hfound⟩ := ih h
      exact ⟨n, hlo, by omega, hfound⟩

theorem endsInDeclaration_of_length? {name s : Text} {stop : Nat}
    (h : length? name s = some stop) :
    ∃ before gap, EndsInDeclaration name (s.take stop) before gap := by
  cases s with
  | nil => cases h
  | cons c s =>
    rw [length?] at h
    split at h
    · rename_i hhere
      rw [Bool.and_eq_true] at hhere
      obtain ⟨rest, rfl⟩ := List.isPrefixOf_iff_prefix.1 hhere.2
      rw [List.drop_left, Option.map_eq_some_iff] at h
      obtain ⟨len, hlen, rfl⟩ := h
      obtain ⟨n, hlo, hhi, rfl, hname, -⟩ := exists_of_nameLength? hlen
      have hblank : ∀ d ∈ rest.take n, isBlank d = true := by
        intro d hd
        have hrun : rest.take n <+: rest.takeWhile isBlank :=
          List.prefix_of_prefix_length_le (List.take_prefix n rest) (List.takeWhile_prefix _)
            (by rw [List.length_take]; omega)
        exact List.all_eq_true.1 List.all_takeWhile d (hrun.subset hd)
      have hfit : n ≤ rest.length := Nat.le_trans hhi (List.takeWhile_prefix _).length_le
      have htake : rest.take (n + name.length) = rest.take n ++ name := by
        obtain ⟨more, hmore⟩ := hname
        rw [List.take_add, ← hmore, List.take_left]
      refine ⟨[c], rest.take n, ?_, ⟨[], c, rfl, hhere.1⟩, ?_, hblank⟩
      · have hlen : 1 + Plumbing.keyword.length + (n + name.length) =
            Plumbing.keyword.length + (n + name.length) + 1 := by omega
        rw [hlen, List.take_succ_cons, List.take_length_add_append, htake]
        rfl
      · intro hnil
        have hzero : (rest.take n).length = 0 := by rw [hnil]; rfl
        rw [List.length_take] at hzero
        omega
    · cases h

theorem endsInDeclaration_of_findEnd? {name s : Text} {stop : Nat}
    (h : findEnd? name s = some stop) :
    ∃ before gap, EndsInDeclaration name (s.take stop) before gap := by
  induction s generalizing stop with
  | nil => cases h
  | cons c s ih =>
    rw [findEnd?] at h
    cases hlen : length? name (c :: s) with
    | some n =>
      rw [hlen] at h
      rw [← Option.some.inj h]
      exact endsInDeclaration_of_length? hlen
    | none =>
      rw [hlen] at h
      obtain ⟨n, hn, rfl⟩ := Option.map_eq_some_iff.1 h
      obtain ⟨before, gap, hdecl⟩ := ih hn
      exact ⟨c :: before, gap, hdecl.append_left [c]⟩

/-- What has been found where a source has been taken apart. -/
theorem locate_eq_ok_iff {name source : Text} {parts : Declaration} :
    locate name source = .ok parts ↔ ∃ comment stop gap close,
      DocComment.first? source = some comment ∧
      findEnd? name (source.drop comment.stop) = some stop ∧
      Text.indexOf? ['{'] ((source.drop comment.stop).drop stop) = some gap ∧
      Text.lastIndexOf? '}' (source.drop comment.stop) = some close ∧ stop + gap ≤ close ∧
      parts = ⟨source.take (comment.stop + stop),
        Text.slice (source.drop comment.stop) ⟨stop + gap, close + 1⟩⟩ := by
  constructor
  · intro h
    unfold locate at h
    cases hcomment : DocComment.first? source with
    | none =>
      rw [hcomment] at h
      cases h
    | some comment =>
      rw [hcomment] at h
      dsimp only at h
      cases hstop : findEnd? name (source.drop comment.stop) with
      | none =>
        rw [hstop] at h
        cases h
      | some stop =>
        rw [hstop] at h
        dsimp only at h
        cases hgap : Text.indexOf? ['{'] ((source.drop comment.stop).drop stop) with
        | none =>
          rw [hgap] at h
          cases h
        | some gap =>
          rw [hgap] at h
          dsimp only at h
          cases hclose : Text.lastIndexOf? '}' (source.drop comment.stop) with
          | none =>
            rw [hclose] at h
            cases h
          | some close =>
            rw [hclose] at h
            dsimp only at h
            split at h
            · cases h
            · rename_i hle
              exact ⟨comment, stop, gap, close, rfl, hstop, hgap, hclose, by omega,
                (Except.ok.inj h).symm⟩
  · intro h
    obtain ⟨comment, stop, gap, close, hcomment, hstop, hgap, hclose, hle, rfl⟩ := h
    have hbody : ¬ close < stop + gap := by omega
    unfold locate
    rw [hcomment]
    dsimp only
    rw [hstop]
    dsimp only
    rw [hgap]
    dsimp only
    rw [hclose]
    dsimp only
    rw [if_neg hbody]
    rfl

/-- A header has a comment, and the code behind its last comment ends in the declaration. -/
theorem endsInDeclaration_of_locate {name source : Text} {parts : Declaration}
    (hname : name.IsWord) (h : locate name source = .ok parts) :
    DocComment.spans parts.header ≠ [] ∧
      ∃ before gap,
        EndsInDeclaration name (DocComment.codeBehind parts.header) before gap := by
  obtain ⟨comment, stop, _, _, hcomment, hstop, -, -, -, hparts⟩ := locate_eq_ok_iff.1 h
  have hheader : parts.header = source.take (comment.stop + stop) := by rw [hparts]
  have hsplit : parts.header =
      source.take comment.stop ++ (source.drop comment.stop).take stop := by
    rw [hheader, List.take_add]
  have hfirst : DocComment.first? parts.header = some comment := by
    rw [hheader, DocComment.first?_take, hcomment, Option.filter_some]
    exact if_pos (decide_eq_true (Nat.le_add_right _ _))
  constructor
  · rw [DocComment.spans_of_some hfirst]
    exact List.cons_ne_nil _ _
  · obtain ⟨before, gap, hdecl⟩ := endsInDeclaration_of_findEnd? hstop
    obtain ⟨front, c, hfront, hc⟩ := hdecl.before_blank
    have hslash : '/' ∉ [c] ++ (Plumbing.keyword ++ (gap ++ name)) := by
      rw [List.mem_append, List.mem_append, not_or, not_or]
      exact ⟨not_mem_blank hc (by decide), by decide,
        hdecl.not_mem_tail hname (by decide) isWord_slash⟩
    have hend : parts.header =
        (source.take comment.stop ++ front) ++ ([c] ++ (Plumbing.keyword ++ (gap ++ name))) := by
      rw [hsplit, hdecl.code_eq, hfront]
      simp only [List.append_assoc]
    obtain ⟨code, hcode⟩ := DocComment.codeBehind_append hslash
    refine ⟨code ++ [c], gap, ?_, ⟨code, c, rfl, hc⟩, hdecl.gap_ne_nil, hdecl.gap_blank⟩
    rw [hend, hcode, List.append_assoc]

end Declaration

namespace Plumbing

/-! ## The passes for marks -/

/-- What the first five passes leave: code without annotations, but with declaring keyword and imports. -/
def stripAnnotations (code : Text) : Text :=
  (rules.take 5).foldl (fun s rule => Text.removeAll rule s) code

/-- What the first six passes leave: code that may still hold imports. -/
def stripMarks (code : Text) : Text :=
  (rules.take 6).foldl (fun s rule => Text.removeAll rule s) code

theorem stripMarks_eq (code : Text) :
    stripMarks code = Text.removeAll declaringKeyword (stripAnnotations code) := rfl

theorem strip_eq (code : Text) : strip code = Text.removeAll importLine (stripMarks code) := rfl

/-- What the cleaning leaves of the code `before` a declaring keyword, the keyword and the white space `front`. -/
def cleanedBefore (before front : Text) : Text :=
  Text.removeAll importLine
    (Text.removeAll declaringKeyword (stripAnnotations before ++ keyword) ++ front)

/-- A text out of reach that holds no mark comes through the first five passes. -/
theorem stripAnnotations_append {tail : Text} (htail : tail.OutOfReach)
    (hmarks : ∀ mark, IsMark mark → ∀ t, t <:+ tail → ¬ mark <+: t) (code : Text) :
    stripAnnotations (code ++ tail) = stripAnnotations code ++ tail := by
  have hpasses : ∀ passes : List StretchRule, (∀ rule ∈ passes, rule ∈ rules.take 5) → ∀ s : Text,
      passes.foldl (fun s rule => Text.removeAll rule s) (s ++ tail) =
        passes.foldl (fun s rule => Text.removeAll rule s) s ++ tail := by
    intro passes
    induction passes with
    | nil => intro _ s; rfl
    | cons rule passes ih =>
      intro hrules s
      obtain ⟨mark, hmark, hrule⟩ := markRule_of_mem (hrules rule (by simp))
      have hpass : Text.removeAll rule (s ++ tail) = Text.removeAll rule s ++ tail := by
        refine Text.removeAll_append_of_untouched hrule.fits (fun b t _ _ => ?_) fun b t ht _ => ?_
        · exact hrule.blind b t tail htail
        · by_cases hzero : rule b t = 0
          · exact hzero
          · exact absurd (hrule.fires b t hzero) (hmarks mark hmark t ht)
      rw [List.foldl_cons, List.foldl_cons, hpass]
      exact ih (fun r hr => hrules r (by simp [hr])) _
  exact hpasses (rules.take 5) (fun _ h => h) code

end Plumbing

namespace EndsInDeclaration

open Plumbing

variable {name code before gap : Text}

/-- The declaration comes through the first five passes. -/
theorem stripAnnotations_eq (h : EndsInDeclaration name code before gap) (hname : name.IsWord) :
    EndsInDeclaration name (stripAnnotations code) (stripAnnotations before) gap := by
  obtain ⟨front, c, hfront, hc⟩ := h.before_blank
  have hat : '@' ∉ [c] := not_mem_blank hc (by decide)
  have hclose : ')' ∉ [c] := not_mem_blank hc (by decide)
  have hbefore : stripAnnotations before = stripAnnotations front ++ [c] := by
    rw [hfront]
    refine stripAnnotations_append ⟨⟨c, [], rfl, hc⟩, ?_⟩ (fun mark hmark t ht => ?_) front
    · exact fun hin => hclose ((Text.line_isPrefix _).subset hin)
    · exact hmark.not_prefix_of_not_mem hat ht
  have hcode : stripAnnotations code =
      stripAnnotations front ++ ([c] ++ (keyword ++ (gap ++ name))) := by
    rw [h.code_eq, hfront, List.append_assoc]
    refine stripAnnotations_append ⟨⟨c, keyword ++ (gap ++ name), rfl, hc⟩, ?_⟩
      (fun mark hmark t ht => ?_) front
    · intro hin
      have hmem : ')' ∈ [c] ++ (keyword ++ (gap ++ name)) := (Text.line_isPrefix _).subset hin
      rw [List.mem_append, List.mem_append] at hmem
      rcases hmem with hmem | hmem | hmem
      · exact hclose hmem
      · exact absurd hmem (by decide)
      · exact h.not_mem_tail hname (by decide) isWord_close hmem
    · exact hmark.not_prefix_of_suffix hat (h.not_mem_tail hname (by decide) isWord_at) ht
  exact
    { code_eq := by rw [hcode, hbefore, List.append_assoc]
      before_blank := ⟨stripAnnotations front, c, hbefore, hc⟩
      gap_ne_nil := h.gap_ne_nil
      gap_blank := h.gap_blank }

/-- The sixth pass takes the keyword or leaves it, and what stands behind it stays. -/
theorem stripMarks_eq (h : EndsInDeclaration name code before gap) (hname : name.IsWord) :
    stripMarks code =
      Text.removeAll declaringKeyword (stripAnnotations before ++ keyword) ++ (gap ++ name) := by
  rw [Plumbing.stripMarks_eq, (h.stripAnnotations_eq hname).code_eq]
  exact removeAll_declaringKeyword_append (h.not_mem_tail hname (by decide) isWord_at) _

/-- The last pass leaves the name and the blank before it, unless it takes the line they stand on. -/
theorem strip_eq (h : EndsInDeclaration name code before gap) (hname : name.IsWord)
    (himport : ¬ importWord <+: Text.afterLast '\n' (stripMarks code)) :
    ∃ front c, isBlank c = true ∧ gap = front ++ [c] ∧
      strip code = cleanedBefore before front ++ c :: name := by
  have hlast := List.dropLast_concat_getLast h.gap_ne_nil
  refine ⟨gap.dropLast, gap.getLast h.gap_ne_nil, h.gap_blank _ (List.getLast_mem _), hlast.symm, ?_⟩
  have hmarks : stripMarks code =
      Text.removeAll declaringKeyword (stripAnnotations before ++ keyword) ++ gap.dropLast ++
        gap.getLast h.gap_ne_nil :: name := by
    rw [h.stripMarks_eq hname]
    conv => lhs; rw [← hlast]
    simp only [List.append_assoc, List.singleton_append]
  rw [hmarks] at himport
  rw [Plumbing.strip_eq, hmarks]
  exact removeAll_importLine_append_cons (hname.not_mem isWord_lineFeed) himport

end EndsInDeclaration

/-! ## The trait of a header -/

namespace Trait

open Plumbing

theorem ofParts_append {name : Text} (hname : name ≠ []) (lead body : Text) :
    ofParts name (lead ++ name) body = .ok (lead ++ declaration name body) := by
  have hsuffix : name.isSuffixOf (lead ++ name) = true :=
    List.isSuffixOf_iff_suffix.2 (List.suffix_append lead name)
  rw [ofParts, if_pos hsuffix, Text.withoutEnd_append lead hname]

theorem ofParts_of_not_suffix {name header : Text} (h : ¬ name <:+ header) (body : Text) :
    ofParts name header body = .error (.structure name .nameLost) := by
  have hsuffix : ¬ name.isSuffixOf header = true := fun hs => h (List.isSuffixOf_iff_suffix.1 hs)
  rw [ofParts, if_neg hsuffix]

/-- A header that loses its last line to the import pass ends in a comment or in a line feed. -/
private theorem not_suffix_of_import {name header : Text} (hname : name.IsWord)
    (hspans : DocComment.spans header ≠ [])
    (himport : importWord <+: Text.afterLast '\n' (stripMarks (DocComment.codeBehind header))) :
    ¬ name <:+ stripAroundComments header := by
  intro hsuffix
  obtain ⟨lead, hlead⟩ := hsuffix
  have hlast : name.getLast? = some (name.getLast hname.1) := List.getLast?_eq_some_getLast hname.1
  have hword : isWord (name.getLast hname.1) = true := hname.2 _ (List.getLast_mem hname.1)
  have hend : (stripAroundComments header).getLast? = some (name.getLast hname.1) := by
    rw [← hlead, List.getLast?_append, hlast]
    rfl
  rw [stripAroundComments_eq, Plumbing.strip_eq, List.getLast?_append] at hend
  cases hrest : (Text.removeAll importLine
      (stripMarks (DocComment.codeBehind header))).getLast? with
  | none =>
    rw [hrest, getLast?_cleanedThrough hspans fun p hp => DocComment.getLast?_slice hp] at hend
    rw [← Option.some.inj hend, isWord_slash] at hword
    cases hword
  | some c =>
    have hfeed : c = '\n' := getLast?_removeAll_importLine himport hrest
    rw [hrest] at hend
    rw [← Option.some.inj hend, hfeed, isWord_lineFeed] at hword
    cases hword

/-- A header that keeps its last line ends in a blank and the declared name. -/
private theorem stripAroundComments_of_declaration {name header before gap : Text}
    (hname : name.IsWord) (h : EndsInDeclaration name (DocComment.codeBehind header) before gap)
    (himport : ¬ importWord <+: Text.afterLast '\n' (stripMarks (DocComment.codeBehind header))) :
    ∃ front c, isBlank c = true ∧ gap = front ++ [c] ∧
      strip (DocComment.codeBehind header) = cleanedBefore before front ++ c :: name ∧
      stripAroundComments header =
        cleanedThrough header 0 (DocComment.spans header) ++ (cleanedBefore before front ++ [c]) ++
          name := by
  obtain ⟨front, c, hc, hgap, hstrip⟩ := h.strip_eq hname himport
  refine ⟨front, c, hc, hgap, hstrip, ?_⟩
  rw [stripAroundComments_eq, hstrip]
  simp only [List.append_assoc, List.singleton_append]

/--
**The cleaned header of a source ends with the declared name, behind a blank, so
its trait can be assembled, unless the last line that the first six passes leave
begins with the import word; then the name is lost, and it cannot.**
-/
theorem ofParts_stripAroundComments_header {name source : Text} {parts : Declaration}
    (hname : name.IsWord) (h : Declaration.locate name source = .ok parts) :
    (¬ importWord <+: Text.afterLast '\n' (stripMarks (DocComment.codeBehind parts.header)) →
      ∃ lead c, isBlank c = true ∧ stripAroundComments parts.header = lead ++ c :: name ∧
        ∀ body, ofParts name (stripAroundComments parts.header) body =
          .ok (lead ++ c :: declaration name body)) ∧
    (importWord <+: Text.afterLast '\n' (stripMarks (DocComment.codeBehind parts.header)) →
      ∀ body, ofParts name (stripAroundComments parts.header) body =
        .error (.structure name .nameLost)) := by
  obtain ⟨hspans, before, gap, hdecl⟩ := Declaration.endsInDeclaration_of_locate hname h
  constructor
  · intro himport
    obtain ⟨front, c, hc, -, -, hheader⟩ := stripAroundComments_of_declaration hname hdecl himport
    have hassoc : ∀ through rest : Text, through ++ (cleanedBefore before front ++ [c]) ++ rest =
        through ++ cleanedBefore before front ++ c :: rest := by
      intro through rest
      simp only [List.append_assoc, List.singleton_append]
    refine ⟨cleanedThrough parts.header 0 (DocComment.spans parts.header) ++
      cleanedBefore before front, c, hc, ?_, fun body => ?_⟩
    · rw [hheader, hassoc]
    · rw [hheader, ofParts_append hname.1, hassoc]
  · intro himport body
    exact ofParts_of_not_suffix (not_suffix_of_import hname hspans himport) body

/--
Two sources that declare `Foo`. In the second one the removed target mark brings
the import word to the beginning of the line, and the name goes with that line.
-/
theorem ofParts_stripAroundComments_header_foo :
    Text.IsWord "Foo".toList ∧
    (∃ parts, Declaration.locate "Foo".toList "/** D. */\npublic @interface Foo \x7b\n\x7d".toList = .ok parts ∧
      ∃ lead c, isBlank c = true ∧ stripAroundComments parts.header = lead ++ c :: "Foo".toList ∧
        ∀ body, ofParts "Foo".toList (stripAroundComments parts.header) body =
          .ok (lead ++ c :: declaration "Foo".toList body)) ∧
    ∃ parts, Declaration.locate "Foo".toList
        "/** D. */\n@Target(T)import @interface Foo \x7b\n\x7d".toList = .ok parts ∧
      ∀ body, ofParts "Foo".toList (stripAroundComments parts.header) body =
        .error (.structure "Foo".toList .nameLost) := by
  have hname : Text.IsWord "Foo".toList := ⟨by decide, List.all_eq_true.1 (by decide +kernel)⟩
  refine ⟨hname, ⟨⟨"/** D. */\npublic @interface Foo".toList, "\x7b\n\x7d".toList⟩, ?_⟩,
    ⟨⟨"/** D. */\n@Target(T)import @interface Foo".toList, "\x7b\n\x7d".toList⟩, ?_⟩⟩
  · have h : Declaration.locate "Foo".toList "/** D. */\npublic @interface Foo \x7b\n\x7d".toList =
        .ok ⟨"/** D. */\npublic @interface Foo".toList, "\x7b\n\x7d".toList⟩ := by decide +kernel
    exact ⟨h, (ofParts_stripAroundComments_header hname h).1 (by decide +kernel)⟩
  · have h : Declaration.locate "Foo".toList
        "/** D. */\n@Target(T)import @interface Foo \x7b\n\x7d".toList =
        .ok ⟨"/** D. */\n@Target(T)import @interface Foo".toList, "\x7b\n\x7d".toList⟩ := by
      decide +kernel
    exact ⟨h, (ofParts_stripAroundComments_header hname h).2 (by decide +kernel)⟩

theorem ofSource_eq_ok_iff {name source text : Text} : ofSource name source = .ok text ↔
    ∃ parts body, Declaration.locate name source = .ok parts ∧ Member.declare parts.body = .ok body ∧
      ofParts name (stripAroundComments parts.header) body = .ok text := by
  have hbody : ∀ parts : Declaration, ((Member.declare parts.body).mapError .valueType >>=
      fun body => ofParts name (stripAroundComments parts.header) body) = .ok text ↔
      ∃ body, Member.declare parts.body = .ok body ∧
        ofParts name (stripAroundComments parts.header) body = .ok text := by
    intro parts
    cases Member.declare parts.body with
    | error fault => simp [Except.mapError, bind, Except.bind]
    | ok body => simp [Except.mapError, bind, Except.bind]
  unfold ofSource
  cases Declaration.locate name source with
  | error fault => simp [Except.mapError, bind, Except.bind]
  | ok parts =>
    simp only [Except.ok.injEq, exists_and_left, exists_eq_left']
    exact hbody parts

/-- What the trait of a source is made of. -/
theorem ofSource_eq_ok {name source text : Text} (hname : name.IsWord)
    (h : ofSource name source = .ok text) :
    ∃ parts body before front c, Declaration.locate name source = .ok parts ∧
      Member.declare parts.body = .ok body ∧ isBlank c = true ∧
      EndsInDeclaration name (DocComment.codeBehind parts.header) before (front ++ [c]) ∧
      strip (DocComment.codeBehind parts.header) = cleanedBefore before front ++ c :: name ∧
      text = cleanedThrough parts.header 0 (DocComment.spans parts.header) ++
        (cleanedBefore before front ++ [c]) ++ declaration name body := by
  obtain ⟨parts, body, hparts, hbody, htext⟩ := ofSource_eq_ok_iff.1 h
  obtain ⟨hspans, before, gap, hdecl⟩ := Declaration.endsInDeclaration_of_locate hname hparts
  have himport : ¬ importWord <+:
      Text.afterLast '\n' (stripMarks (DocComment.codeBehind parts.header)) := by
    intro himport
    rw [ofParts_of_not_suffix (not_suffix_of_import hname hspans himport)] at htext
    cases htext
  obtain ⟨front, c, hc, rfl, hstrip, hheader⟩ :=
    stripAroundComments_of_declaration hname hdecl himport
  rw [hheader, ofParts_append hname.1] at htext
  exact ⟨parts, body, before, front, c, hparts, hbody, hc, hdecl, hstrip,
    (Except.ok.inj htext).symm⟩

end Trait

end TraitDoc
