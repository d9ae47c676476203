import TraitDoc.Proofs.HeaderEnd
import TraitDoc.Proofs.StayingBelow
/-!
# Declared names

The source suffix is taken off twice: off the whole of a file's name, for the
path of its trait file, and off the last part of the name, for the name that the
file declares. A suffix without a slash ends the one where it ends the other,
so both lose the same characters: the name without its suffix is the directory
of the name, up to its last slash, and then the declared name.

Nothing says that a declared name has characters. A name that is the suffix
alone can be loaded, in a directory or not, and so can a name that ends in a
slash; both declare the empty name. Every header ends in the empty name. But an
end of no characters has nothing before it, so the whole header goes with it,
comments and all. With every other name the trait stands behind what stood
before the name.

## Main definitions

* `Text.throughLast` — the part of a text that ends in its last mark.

## Main statements

* `Settings.stem_eq_append` — the two ways to take the suffix off agree.
* `Settings.targetPath_by_parts` — the trait file stands in the directory of the
  source, under the declared name.
* `Settings.declaredName_eq_nil_iff` — the names of files that declare the empty name.
* `Settings.ofParts_declaredName` — when the header stays in front of the trait.
* `Settings.header_lost` — it does not always.
-/

namespace TraitDoc

/-! ## The last mark -/

namespace Text

variable {mark : Char} {s front last tail : Text}

/-- The text up to its last copy of `mark` and with it, nothing where there is none. -/
def throughLast (mark : Char) (s : Text) : Text :=
  match lastIndexOf? mark s with
  | none => []
  | some i => s.take (i + 1)

theorem throughLast_of_not_mem (h : mark ∉ s) : throughLast mark s = [] := by
  rw [throughLast, lastIndexOf?_eq_none_iff.2 h]

theorem throughLast_append_cons (h : mark ∉ last) (front : Text) :
    throughLast mark (front ++ mark :: last) = front ++ [mark] := by
  have hlast : lastIndexOf? mark (front ++ mark :: last) = some front.length :=
    lastIndexOf?_eq_some_iff_append.2 ⟨front, last, rfl, h, rfl⟩
  have hlength : front.length + 1 = (front ++ [mark]).length := by simp
  rw [throughLast, hlast]
  dsimp only
  rw [List.append_cons, hlength, List.take_left]

/-- A text with a mark has a last one. -/
theorem exists_eq_append_cons_of_mem (h : mark ∈ s) :
    ∃ front last, s = front ++ mark :: last ∧ mark ∉ last := by
  cases hlast : lastIndexOf? mark s with
  | none => exact absurd h (lastIndexOf?_eq_none_iff.1 hlast)
  | some i =>
    obtain ⟨front, last, hs, hnot, -⟩ := lastIndexOf?_eq_some_iff_append.1 hlast
    exact ⟨front, last, hs, hnot⟩

/-- An end without the mark does not reach to the mark. -/
theorem suffix_append_cons_iff (h : mark ∉ tail) :
    tail <:+ front ++ mark :: last ↔ tail <:+ last := by
  have hlast : last <:+ front ++ mark :: last :=
    (List.suffix_cons mark last).trans (List.suffix_append front _)
  refine ⟨fun htail => ?_, fun htail => htail.trans hlast⟩
  rcases List.suffix_or_suffix_of_suffix htail (List.suffix_append front (mark :: last)) with
    hwithin | haround
  · rcases List.suffix_cons_iff.1 hwithin with hall | hrest
    · exact absurd (hall ▸ List.mem_cons_self) h
    · exact hrest
  · exact absurd (haround.subset List.mem_cons_self) h

end Text

/-! ## The suffix taken off -/

namespace Settings

variable {s : Settings} {name filename : Text}

theorem stem_append_suffix (hsuffix : s.sourceSuffix ≠ []) (rest : Text) :
    s.stem (rest ++ s.sourceSuffix) = rest := by
  have hends : s.sourceSuffix.isSuffixOf (rest ++ s.sourceSuffix) = true :=
    List.isSuffixOf_iff_suffix.2 (List.suffix_append rest s.sourceSuffix)
  rw [stem, if_pos hends, Text.withoutEnd_append rest hsuffix]

/-- A name loses the suffix once if it ends in it, and nothing else. -/
theorem stem_cases (hsuffix : s.sourceSuffix ≠ []) (name : Text) :
    s.sourceSuffix <:+ name ∧ s.stem name ++ s.sourceSuffix = name ∨
      ¬ s.sourceSuffix <:+ name ∧ s.stem name = name := by
  by_cases hends : s.sourceSuffix <:+ name
  · obtain ⟨rest, rfl⟩ := hends
    rw [stem_append_suffix hsuffix]
    exact .inl ⟨List.suffix_append rest s.sourceSuffix, rfl⟩
  · exact .inr ⟨hends, stem_of_not_suffix hends⟩

/-- The suffix is taken off behind the last slash. -/
theorem stem_append_cons (hsuffix : s.sourceSuffix ≠ []) (hslash : '/' ∉ s.sourceSuffix)
    (front last : Text) : s.stem (front ++ '/' :: last) = front ++ '/' :: s.stem last := by
  by_cases hends : s.sourceSuffix <:+ last
  · obtain ⟨rest, rfl⟩ := hends
    have hassoc : front ++ '/' :: (rest ++ s.sourceSuffix) =
        (front ++ '/' :: rest) ++ s.sourceSuffix := by simp
    rw [hassoc, stem_append_suffix hsuffix, stem_append_suffix hsuffix]
  · rw [stem_of_not_suffix hends,
      stem_of_not_suffix (mt (Text.suffix_append_cons_iff hslash).1 hends)]

/-- The name without its suffix is its directory and then the declared name. -/
theorem stem_eq_append (hsuffix : s.sourceSuffix ≠ []) (hslash : '/' ∉ s.sourceSuffix)
    (filename : Text) :
    s.stem filename = Text.throughLast '/' filename ++ s.declaredName filename := by
  rw [declaredName]
  by_cases hmem : '/' ∈ filename
  · obtain ⟨front, last, rfl, hlast⟩ := Text.exists_eq_append_cons_of_mem hmem
    rw [stem_append_cons hsuffix hslash, Text.throughLast_append_cons hlast,
      Text.afterLast_append_cons, Text.afterLast_of_not_mem hlast, List.append_cons]
  · rw [Text.throughLast_of_not_mem hmem, Text.afterLast_of_not_mem hmem, List.nil_append]

theorem slash_not_mem_declaredName (s : Settings) (filename : Text) :
    '/' ∉ s.declaredName filename := fun hin =>
  Text.not_mem_afterLast '/' filename ((s.stem_initial _).subset hin)

/--
**The trait file stands in the directory of its source, under the declared name
and the other suffix.** The declared name is one part of a path, and with the
directory it is the name of the file without the suffix, if it ends in it.
-/
theorem targetPath_by_parts (hsuffix : s.sourceSuffix ≠ []) (hslash : '/' ∉ s.sourceSuffix)
    (filename : Text) :
    s.targetPath filename = s.targetDir.join
      (.ofText (Text.throughLast '/' filename ++ s.declaredName filename ++ s.targetSuffix)) ∧
    '/' ∉ s.declaredName filename ∧
    (s.sourceSuffix <:+ filename ∧
        Text.throughLast '/' filename ++ s.declaredName filename ++ s.sourceSuffix = filename ∨
      ¬ s.sourceSuffix <:+ filename ∧
        Text.throughLast '/' filename ++ s.declaredName filename = filename) := by
  rw [← stem_eq_append hsuffix hslash]
  exact ⟨rfl, s.slash_not_mem_declaredName filename, stem_cases hsuffix filename⟩

/-- The default settings of a project. -/
def plainSettings : Settings := defaults (.ofText "/project".toList)

/-- A name that carries the suffix twice, in a directory, loses one of the two. -/
theorem targetPath_by_parts_twice :
    plainSettings.sourceSuffix ≠ [] ∧ '/' ∉ plainSettings.sourceSuffix ∧
    plainSettings.targetPath "tags/Slow.java.java".toList = plainSettings.targetDir.join
      (.ofText (Text.throughLast '/' "tags/Slow.java.java".toList ++
        plainSettings.declaredName "tags/Slow.java.java".toList ++ plainSettings.targetSuffix)) ∧
    plainSettings.declaredName "tags/Slow.java.java".toList = "Slow.java".toList ∧
    Text.throughLast '/' "tags/Slow.java.java".toList ++
      plainSettings.declaredName "tags/Slow.java.java".toList ++ plainSettings.sourceSuffix =
        "tags/Slow.java.java".toList := by
  have hsuffix : plainSettings.sourceSuffix ≠ [] := by decide
  have hslash : '/' ∉ plainSettings.sourceSuffix := by decide
  obtain ⟨hpath, -, ⟨-, hparts⟩ | ⟨hends, -⟩⟩ :=
    targetPath_by_parts hsuffix hslash "tags/Slow.java.java".toList
  · exact ⟨hsuffix, hslash, hpath, by decide, hparts⟩
  · exact absurd (by decide) hends

/-! ## The empty name -/

/-- A file declares the empty name if the last part of its name is empty, or the suffix alone. -/
theorem declaredName_eq_nil_iff (hsuffix : s.sourceSuffix ≠ []) :
    s.declaredName filename = [] ↔
      Text.afterLast '/' filename = [] ∨ Text.afterLast '/' filename = s.sourceSuffix := by
  rw [declaredName]
  rcases stem_cases hsuffix (Text.afterLast '/' filename) with ⟨hends, hparts⟩ | ⟨hends, hall⟩
  · constructor
    · intro hnil
      rw [hnil, List.nil_append] at hparts
      exact .inr hparts.symm
    · rintro (hlast | hlast)
      · rw [hlast] at hends
        exact absurd (List.suffix_nil.1 hends) hsuffix
      · exact List.append_left_eq_self.1 (hparts.trans hlast)
  · rw [hall]
    refine ⟨.inl, fun hlast => hlast.resolve_right fun heq => hends ?_⟩
    exact heq ▸ List.suffix_refl s.sourceSuffix

end Settings

/-! ## The header in front of the trait -/

/-- Nothing is left of a header from whose end the empty name is taken. -/
theorem Trait.ofParts_nil (header body : Text) :
    ofParts [] header body = .ok (declaration [] body) := by
  have hsuffix : ([] : Text).isSuffixOf header = true :=
    List.isSuffixOf_iff_suffix.2 List.nil_suffix
  rw [ofParts, if_pos hsuffix]
  rfl

theorem Trait.ofParts_append_iff {name lead body : Text} :
    ofParts name (lead ++ name) body = .ok (lead ++ declaration name body) ↔
      name ≠ [] ∨ lead = [] := by
  by_cases hname : name = []
  · subst hname
    rw [List.append_nil, ofParts_nil]
    simp
  · simp [hname, ofParts_append hname]

namespace Settings

variable {s : Settings} {filename : Text}

/--
**In settings that have been loaded, the trait of a file is put behind all that
stands before the declared name, unless the file declares the empty name; then
nothing of the header is left.** A header that does not end in the declared name
is refused under that name.
-/
theorem ofParts_declaredName {parse : Text → Except Yaml.Fault Yaml.Value} {p : FilePath}
    {w w' : Workspace} (h : w.run (loadWith parse p) = (.ok s, w')) (filename : Text) :
    (∀ lead body, Trait.ofParts (s.declaredName filename) (lead ++ s.declaredName filename) body =
        .ok (lead ++ ("trait ".toList ++ s.declaredName filename ++
          " extends java.lang.annotation.Annotation ".toList ++ body ++ ['\n'])) ↔
      ¬ (Text.afterLast '/' filename = [] ∨ Text.afterLast '/' filename = s.sourceSuffix) ∨
        lead = []) ∧
    (Text.afterLast '/' filename = [] ∨ Text.afterLast '/' filename = s.sourceSuffix →
      ∀ header body, Trait.ofParts (s.declaredName filename) header body =
        .ok ("trait ".toList ++ " extends java.lang.annotation.Annotation ".toList ++ body ++
          ['\n'])) ∧
    ∀ header body, ¬ s.declaredName filename <:+ header →
      Trait.ofParts (s.declaredName filename) header body =
        .error (.structure (s.declaredName filename) .nameLost) := by
  rw [Workspace.run_loadWith] at h
  have hdot := (Workspace.valid_of_loaded (Prod.mk.inj h).1).sourceSuffix_head
  have hsuffix : s.sourceSuffix ≠ [] := by
    intro hnil
    rw [hnil] at hdot
    cases hdot
  rw [← declaredName_eq_nil_iff hsuffix]
  refine ⟨fun lead body => Trait.ofParts_append_iff, fun hnil header body => ?_,
    fun header body hends => Trait.ofParts_of_not_suffix hends body⟩
  rw [hnil]
  exact Trait.ofParts_nil header body

/-! ## A file that is named by the suffix alone -/

/-- A project whose only file is named by the source suffix alone. -/
def namelessWorkspace : Workspace where
  tree := .directory [
    (settingsFile, .file (Text.encode "src_dir: src\ndocsrc_dir: out\nfilenames: [.java]\n".toList)),
    ("src".toList, .directory [(".java".toList,
      .file (Text.encode "/** A. */\npublic @interface A \x7b\n\x7d\n".toList))])]
  standing := .at []
  homes := fun _ => none
  now := []

/-- The settings of that project. -/
def namelessSettings : Settings :=
  { Settings.defaults (.ofText "/".toList) with
    sourceDir := .ofText "/src".toList
    targetDir := .ofText "/out".toList
    filenames := [".java".toList] }

private theorem load_nameless : namelessWorkspace.run (load (.ofText ['.'])) =
    (.ok namelessSettings, namelessWorkspace) := by
  unfold load
  exact Workspace.run_loadWith_of_toOption (by decide +kernel)

/-- The file declares the empty name, so its header is lost whatever it is. -/
theorem ofParts_declaredName_nameless :
    namelessWorkspace.run (load (.ofText ['.'])) = (.ok namelessSettings, namelessWorkspace) ∧
    Text.afterLast '/' ".java".toList = namelessSettings.sourceSuffix ∧
    ∀ header body, Trait.ofParts (namelessSettings.declaredName ".java".toList) header body =
      .ok ("trait ".toList ++ " extends java.lang.annotation.Annotation ".toList ++ body ++
        ['\n']) := by
  have hlast : Text.afterLast '/' ".java".toList = namelessSettings.sourceSuffix := by decide
  exact ⟨load_nameless, hlast,
    (ofParts_declaredName load_nameless ".java".toList).2.1 (.inr hlast)⟩

/-- Settings can be loaded of which a file loses the header. -/
theorem header_lost :
    ¬ ∀ (parse : Text → Except Yaml.Fault Yaml.Value) (p : FilePath) (s : Settings)
      (w w' : Workspace) (filename lead body : Text),
      w.run (loadWith parse p) = (.ok s, w') → filename ∈ s.filenames →
        Trait.ofParts (s.declaredName filename) (lead ++ s.declaredName filename) body =
          .ok (lead ++ Trait.declaration (s.declaredName filename) body) := by
  intro hkept
  have hheader := hkept _ _ _ _ _ ".java".toList "/** A. */\n ".toList [] load_nameless (by decide)
  have hname : namelessSettings.declaredName ".java".toList = [] := by decide
  rw [hname, Trait.ofParts_append_iff] at hheader
  rcases hheader with hne | hnil
  · exact hne rfl
  · exact absurd hnil (by decide)

end Settings

end TraitDoc
