import TraitDoc.Proofs.SourceGrammar
import TraitDoc.Proofs.ValueLine
/-!
# The body of a trait

The body of a source is in braces. Where its value member is declared as a
method, only the type and the marker are replaced. The marker is followed by the
closing brace at least. The opening brace is never part of the type: it would be
the first character of it, and no type in the table begins with a brace. So what
comes out is in braces again, and it has as many lines as the body had.

With that the end of every trait is known: it is the head of the declaration,
then nothing or a block in braces, and then a line feed.

## Main definitions

* `Text.InBraces` — a text in braces.
* `Member.KeepsBraces` — the outcomes of declaring the member of a body in braces.

## Main statements

* `Declaration.inBraces_of_locate` — the body of a source is in braces.
* `Member.keepsBraces_of_inBraces` — a declared body is in braces.
* `Settings.traitFile_block` — how a trait ends.
-/

namespace TraitDoc

/-- A text that begins with an opening brace and ends with a closing one. -/
def Text.InBraces (s : Text) : Prop := ∃ inner, s = '\x7b' :: (inner ++ ['\x7d'])

/-- The body of a source is in braces, whatever the name. -/
theorem Declaration.inBraces_of_locate {name source : Text} {parts : Declaration}
    (h : locate name source = .ok parts) : parts.body.InBraces := by
  obtain ⟨comment, stop, gap, close, -, -, hgap, hclose, hle, rfl⟩ := locate_eq_ok_iff.1 h
  have hfit := Text.indexOf?_add_length_le hgap
  rw [List.length_drop, List.length_singleton] at hfit
  have hfront : ((source.drop comment.stop).take stop).length = stop := by
    rw [List.length_take]
    omega
  have hbraces : Braces ((source.drop comment.stop).drop stop)
      (Text.slice (source.drop comment.stop) ⟨stop + gap, close + 1⟩) := by
    refine (braces_iff ((source.drop comment.stop).take stop)).2 ⟨gap, close, hgap, ?_, ?_, ?_⟩
    · rw [List.take_append_drop]
      exact hclose
    · rw [hfront]
      exact hle
    · rw [List.take_append_drop, hfront]
  obtain ⟨-, inner, -, -, -, -, hbody⟩ := hbraces
  exact ⟨inner, hbody⟩

namespace Member

/-! ## Declared bodies -/

/-- A type in the table begins with a character that is no brace, and what stands for it is on one line. -/
theorem row_of_mem_typeTable {valueType type : Text} (h : (valueType, type) ∈ typeTable) :
    (∃ c rest, valueType = c :: rest ∧ c ≠ '\x7b') ∧ '\n' ∉ type := by
  simp only [typeTable, List.mem_cons, List.not_mem_nil, or_false, Prod.mk.injEq] at h
  rcases h with ⟨rfl, rfl⟩ | ⟨rfl, rfl⟩ | ⟨rfl, rfl⟩
  · exact ⟨⟨'C', _, rfl, by decide⟩, by decide⟩
  · exact ⟨⟨'S', _, rfl, by decide⟩, by decide⟩
  · exact ⟨⟨'S', _, rfl, by decide⟩, by decide⟩

/--
What can become of a body in braces: its type is unknown, or nothing is left of
it, or it is in braces again and has as many line feeds as before.
-/
inductive KeepsBraces (body : Text) : Except UnknownType Text → Prop
  | unknown (fault : UnknownType) : KeepsBraces body (.error fault)
  | nothing : KeepsBraces body (.ok [])
  | block (declared : Text) (braces : declared.InBraces)
    (feeds : declared.count '\n' = body.count '\n') : KeepsBraces body (.ok declared)

/-- The opening brace stands before the type. -/
private theorem exists_lead {lead written after inner valueType type : Text}
    (hbody : '\x7b' :: inner = lead ++ (written ++ (marker ++ after)))
    (hwritten : valueType = Text.dropTrailing ' ' written) (htype : (valueType, type) ∈ typeTable) :
    ∃ rest, lead = '\x7b' :: rest := by
  obtain ⟨⟨c, tail, hvalue, hbrace⟩, -⟩ := row_of_mem_typeTable htype
  have hprefix : c :: tail <+: written := by
    rw [← hvalue, hwritten]
    exact Text.dropTrailing_isPrefix ' ' written
  cases lead with
  | nil =>
    obtain ⟨more, rfl⟩ := hprefix
    exact absurd (List.cons.inj hbody).1.symm hbrace
  | cons d lead => exact ⟨lead, by rw [(List.cons.inj hbody).1]⟩

/-- The closing brace stands behind the marker. -/
private theorem exists_after {front written after inner : Text}
    (hbody : inner ++ ['\x7d'] = front ++ (written ++ (marker ++ after))) :
    ∃ rest, after = rest ++ ['\x7d'] := by
  have hmarker : marker = "value()".toList ++ [';'] := rfl
  have hlast := congrArg List.getLast? hbody
  by_cases hnil : after = []
  · rw [hnil, hmarker] at hlast
    simp only [List.append_nil, ← List.append_assoc, List.getLast?_concat, Option.some.injEq] at hlast
    exact absurd hlast (by decide)
  · have hsplit := List.dropLast_concat_getLast hnil
    rw [← hsplit] at hlast
    simp only [← List.append_assoc, List.getLast?_concat, Option.some.injEq] at hlast
    exact ⟨after.dropLast, by rw [hlast]; exact hsplit.symm⟩

/-- A body in braces is declared as a body in braces, if anything is left of it. -/
theorem keepsBraces_of_inBraces {body : Text} (h : body.InBraces) :
    KeepsBraces body (declare body) := by
  cases hparts : parts? body with
  | none =>
    rw [declare_of_none hparts]
    exact .nothing
  | some p =>
    rw [declare_of_some hparts]
    cases htype : traitType p.valueType with
    | error fault => exact .unknown fault
    | ok type =>
      obtain ⟨inner, hinner⟩ := h
      obtain ⟨written, hbody, hwritten, hfeed⟩ := eq_of_parts? hparts
      have hrow := mem_typeTable_of_traitType htype
      have hsplit := hinner.symm.trans hbody
      obtain ⟨front, hfront⟩ := exists_lead hsplit hwritten hrow
      have hclosed : '\x7b' :: inner ++ ['\x7d'] = p.lead ++ (written ++ (marker ++ p.after)) := hsplit
      obtain ⟨rest, hrest⟩ := exists_after hclosed
      refine .block (p.lead ++ (method ++ type) ++ p.after) ?_ ?_
      · exact ⟨front ++ (method ++ type) ++ rest, by rw [hfront, hrest]; simp⟩
      · have hmethod : '\n' ∉ method := by decide
        have hmarker : '\n' ∉ marker := by decide
        rw [hbody]
        simp only [List.count_append, List.count_eq_zero_of_not_mem hmethod,
          List.count_eq_zero_of_not_mem hmarker, List.count_eq_zero_of_not_mem hfeed,
          List.count_eq_zero_of_not_mem (row_of_mem_typeTable hrow).2]
        omega

end Member

/-! ## How a trait ends -/

theorem Trait.ofParts_eq_ok {name header body text : Text}
    (h : ofParts name header body = .ok text) : ∃ lead, text = lead ++ declaration name body := by
  unfold ofParts at h
  split at h
  · exact ⟨_, (Except.ok.inj h).symm⟩
  · cases h

theorem Trait.append_declaration (lead name body : Text) :
    lead ++ declaration name body = lead ++ ("trait ".toList ++ name) ++
      " extends java.lang.annotation.Annotation ".toList ++ body ++ ['\n'] := by
  unfold declaration
  generalize "trait ".toList = front
  generalize " extends java.lang.annotation.Annotation ".toList = head
  simp only [List.append_assoc]

/--
**The body of a source is declared as a block in braces with as many line feeds,
if its type is known and anything is left of it. So every trait ends in the head
of its declaration, nothing or a block in braces, and a line feed.**
-/
theorem Settings.traitFile_block :
    (∀ name source parts, Declaration.locate name source = .ok parts →
      Member.KeepsBraces parts.body (Member.declare parts.body)) ∧
    ∀ (settings : Settings) (source : SourceFile) (file : TraitFile),
      settings.traitFile source = .ok file →
      ∃ parts lead block, Declaration.locate source.declaredName source.text = .ok parts ∧
        Member.declare parts.body = .ok block ∧ (block = [] ∨ block.InBraces) ∧
        file.text = lead ++ " extends java.lang.annotation.Annotation ".toList ++ block ++ ['\n'] := by
  constructor
  · intro name source parts h
    exact Member.keepsBraces_of_inBraces (Declaration.inBraces_of_locate h)
  · intro settings source file h
    unfold Settings.traitFile at h
    cases htext : Trait.ofSource source.declaredName source.text with
    | error fault =>
      rw [htext] at h
      cases h
    | ok text =>
      rw [htext] at h
      obtain rfl := Except.ok.inj h
      obtain ⟨parts, block, hparts, hblock, hjoined⟩ := Trait.ofSource_eq_ok_iff.1 htext
      obtain ⟨lead, rfl⟩ := Trait.ofParts_eq_ok hjoined
      have hkeeps := Member.keepsBraces_of_inBraces (Declaration.inBraces_of_locate hparts)
      rw [hblock] at hkeeps
      refine ⟨parts, lead ++ ("trait ".toList ++ source.declaredName), block, hparts, hblock, ?_, ?_⟩
      · cases hkeeps with
        | nothing => exact .inl rfl
        | block _ hbraces _ => exact .inr hbraces
      · exact Trait.append_declaration lead source.declaredName block

/-- The member stands on the second line of the body, which is in braces before and after. -/
theorem Settings.traitFile_block_array :
    (∃ parts, Declaration.locate "Foo".toList
        "/** A. */ @interface Foo \x7b\n  String[] value();\n\x7d".toList = .ok parts ∧
      Member.KeepsBraces parts.body (Member.declare parts.body)) ∧
    ∃ file, (Settings.defaults (.ofText "p".toList)).traitFile
        { filename := "Foo.java".toList
          text := "/** A. */ @interface Foo \x7b\n  String[] value();\n\x7d".toList
          declaredName := "Foo".toList } = .ok file ∧
      ∃ parts lead block, Declaration.locate "Foo".toList
          "/** A. */ @interface Foo \x7b\n  String[] value();\n\x7d".toList = .ok parts ∧
        Member.declare parts.body = .ok block ∧ (block = [] ∨ block.InBraces) ∧
        file.text = lead ++ " extends java.lang.annotation.Annotation ".toList ++ block ++ ['\n'] := by
  have hparts : Declaration.locate "Foo".toList
      "/** A. */ @interface Foo \x7b\n  String[] value();\n\x7d".toList =
      .ok ⟨"/** A. */ @interface Foo".toList, "\x7b\n  String[] value();\n\x7d".toList⟩ := by
    decide +kernel
  have hfile : (Settings.defaults (.ofText "p".toList)).traitFile
      { filename := "Foo.java".toList
        text := "/** A. */ @interface Foo \x7b\n  String[] value();\n\x7d".toList
        declaredName := "Foo".toList } = .ok
      { filename := "Foo.java".toList
        path := (Settings.defaults (.ofText "p".toList)).targetPath "Foo.java".toList
        text := ("/** A. */ @interface trait Foo extends java.lang.annotation.Annotation " ++
          "\x7b\n  def value(): Array[String]\n\x7d\n").toList
        patch := none } := by decide +kernel
  have hblock := traitFile_block.2 _ _ _ hfile
  exact ⟨⟨_, hparts, traitFile_block.1 _ _ _ hparts⟩, _, hfile, hblock⟩

end TraitDoc
