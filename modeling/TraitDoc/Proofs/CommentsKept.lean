import TraitDoc.Proofs.HeaderEnd
import TraitDoc.TraitFile
/-!
# Comments in the trait file

The text of a trait file is made of the documentation comments of its source and
the cleaned code around them. The comments that count are those that end inside
the header, and they are found by scanning the source alone: the cut behind the
declared name makes no comment and breaks none, because a comment of the header
is a comment of the source that ends before the cut.

The order of the comments is stated for the text that comes out, without the
offsets of the text that went in.

## Main definitions

* `Text.HoldsInOrder` — some words stand in a text one after another.
* `Composed` — what the text of a trait file is made of.

## Main statements

* `Text.holdsInOrder_cleanedThrough` — cleaning keeps every comment, in order.
* `Declaration.header_eq_take` — a header is a beginning of the source.
* `Settings.composed_of_traitFile` — the text of a trait file, comment by comment.
-/

namespace TraitDoc

/-! ## Words in order -/

namespace Text

/-- The words stand in the text one after another, and none reaches into the next. -/
def HoldsInOrder : List Text → Text → Prop
  | [], _ => True
  | word :: words, s => ∃ front rest, s = front ++ (word ++ rest) ∧ HoldsInOrder words rest

/-- Cleaning keeps every comment, in order, whatever follows. -/
theorem holdsInOrder_cleanedThrough (s : Text) :
    ∀ (comments : List Span) (start : Nat) (rest : Text),
      HoldsInOrder (comments.map s.slice) (Plumbing.cleanedThrough s start comments ++ rest) := by
  intro comments
  induction comments with
  | nil => intro start rest; trivial
  | cons p comments ih =>
    intro start rest
    have hlater : HoldsInOrder (comments.map s.slice)
        (Plumbing.cleanedThrough s p.stop comments ++ rest) := ih p.stop rest
    refine ⟨Plumbing.strip (s.slice ⟨start, p.start⟩), _, ?_, hlater⟩
    rw [Plumbing.cleanedThrough]
    simp only [List.append_assoc]

end Text

/-! ## The comments of a header -/

namespace DocComment

theorem bounds_of_mem_spans {s : Text} {p : Span} (h : p ∈ spans s) :
    p.start ≤ p.stop ∧ p.stop ≤ s.length := by
  obtain ⟨offset, q, hq, rfl⟩ := exists_first?_of_mem_spans h
  have hbounds := first?_bounds hq
  rw [List.length_drop] at hbounds
  show offset + q.start ≤ offset + q.stop ∧ offset + q.stop ≤ s.length
  omega

/-- The code behind the last comment of a beginning of the text. -/
theorem codeBehind_take (s : Text) (n : Nat) :
    codeBehind (s.take n) = s.slice ⟨lastStop 0 ((spans s).filter fun p => p.stop ≤ n), n⟩ := by
  rw [codeBehind, spans_take, List.drop_take]
  rfl

end DocComment

namespace Plumbing

theorem cleanedThrough_spans_take (s : Text) (n : Nat) :
    cleanedThrough (s.take n) 0 (DocComment.spans (s.take n)) =
      cleanedThrough s 0 ((DocComment.spans s).filter fun p => p.stop ≤ n) := by
  rw [DocComment.spans_take]
  refine cleanedThrough_take fun p hp => ?_
  obtain ⟨hmem, hstop⟩ := List.mem_filter.1 hp
  exact ⟨(DocComment.bounds_of_mem_spans hmem).1, of_decide_eq_true hstop⟩

end Plumbing

namespace Declaration

/-- A header is a beginning of the source. -/
theorem header_eq_take {name source : Text} {parts : Declaration}
    (h : locate name source = .ok parts) : parts.header = source.take parts.header.length := by
  obtain ⟨comment, stop, _, _, -, -, -, -, -, hparts⟩ := locate_eq_ok_iff.1 h
  have hprefix : parts.header <+: source := by
    rw [hparts]
    exact List.take_prefix _ _
  exact List.prefix_iff_eq_take.1 hprefix

end Declaration

/-! ## The text of a trait file -/

/--
The text is made of the source that declares `name`. The source has the parts
`parts`, its body is declared as `body`, and its header holds `comments`. The
code behind the last of them is cleaned to `lead` and the declared name.
-/
structure Composed (name source text : Text) (parts : Declaration) (body : Text)
    (comments : List Span) (lead : Text) : Prop where
  located : Declaration.locate name source = .ok parts
  header_eq : parts.header = source.take parts.header.length
  declared : Member.declare parts.body = .ok body
  comments_eq : comments =
    (DocComment.spans source).filter fun p => p.stop ≤ parts.header.length
  comments_ne_nil : comments ≠ []
  behind_eq : Plumbing.strip
    (source.slice ⟨DocComment.lastStop 0 comments, parts.header.length⟩) = lead ++ name
  text_eq : text = Plumbing.cleanedThrough source 0 comments ++ lead ++
    ("trait ".toList ++ name ++ " extends java.lang.annotation.Annotation ".toList ++ body ++ ['\n'])
  in_order : Text.HoldsInOrder (comments.map source.slice) text

/--
**The text of a trait file is the cleaned code and the comments of the header, in
turn, then the code behind the last comment, cleaned and without the declared
name at its end, and then the declaration of the trait.**
-/
theorem Settings.composed_of_traitFile {s : Settings} {source : SourceFile} {file : TraitFile}
    (hname : source.declaredName.IsWord) (h : s.traitFile source = .ok file) :
    ∃ parts body comments lead,
      Composed source.declaredName source.text file.text parts body comments lead := by
  unfold Settings.traitFile at h
  cases htext : Trait.ofSource source.declaredName source.text with
  | error fault =>
    rw [htext] at h
    cases h
  | ok text =>
    rw [htext] at h
    obtain rfl := Except.ok.inj h
    obtain ⟨parts, body, before, front, c, hparts, hbody, -, -, hstrip, rfl⟩ :=
      Trait.ofSource_eq_ok hname htext
    have hheader := Declaration.header_eq_take hparts
    have hspans : (DocComment.spans source.text).filter
        (fun p => p.stop ≤ parts.header.length) = DocComment.spans parts.header := by
      rw [← DocComment.spans_take, ← hheader]
    have hbehind : source.text.slice ⟨DocComment.lastStop 0 (DocComment.spans parts.header),
        parts.header.length⟩ = DocComment.codeBehind parts.header := by
      rw [← hspans, ← DocComment.codeBehind_take, ← hheader]
    have hthrough : Plumbing.cleanedThrough parts.header 0 (DocComment.spans parts.header) =
        Plumbing.cleanedThrough source.text 0 (DocComment.spans parts.header) := by
      conv => lhs; rw [hheader]
      rw [Plumbing.cleanedThrough_spans_take, hspans]
    refine ⟨parts, body, DocComment.spans parts.header, Plumbing.cleanedBefore before front ++ [c], ?_⟩
    exact
      { located := hparts
        header_eq := hheader
        declared := hbody
        comments_eq := hspans.symm
        comments_ne_nil := (Declaration.endsInDeclaration_of_locate hname hparts).1
        behind_eq := by rw [hbehind, hstrip, List.append_assoc, List.singleton_append]
        text_eq := by
          rw [hthrough]
          rfl
        in_order := by
          show Text.HoldsInOrder _ (_ ++ _ ++ Trait.declaration source.declaredName body)
          rw [hthrough, List.append_assoc]
          exact Text.holdsInOrder_cleanedThrough _ _ _ _ }

/-- The declared name stands in the third comment, so two comments are kept and the third is cut. -/
theorem composed_of_traitFile_foo :
    Text.IsWord "Foo".toList ∧
    ∃ file, (Settings.defaults (.ofText "p".toList)).traitFile
        { filename := "Foo.java".toList
          text := "/** A */import b;\n/** B */ /** @interface Foo */\n\x7b\x7d".toList
          declaredName := "Foo".toList } = .ok file ∧
      ∃ parts body comments lead, Composed "Foo".toList
        "/** A */import b;\n/** B */ /** @interface Foo */\n\x7b\x7d".toList file.text
        parts body comments lead := by
  have hname : Text.IsWord "Foo".toList := ⟨by decide, List.all_eq_true.1 (by decide +kernel)⟩
  have h : (Settings.defaults (.ofText "p".toList)).traitFile
      { filename := "Foo.java".toList
        text := "/** A */import b;\n/** B */ /** @interface Foo */\n\x7b\x7d".toList
        declaredName := "Foo".toList } = .ok
      { filename := "Foo.java".toList
        path := (Settings.defaults (.ofText "p".toList)).targetPath "Foo.java".toList
        text := ("/** A */\n/** B */ /** @interface trait Foo extends " ++
          "java.lang.annotation.Annotation \n").toList
        patch := none } := by decide +kernel
  exact ⟨hname, _, h, Settings.composed_of_traitFile hname h⟩

end TraitDoc
