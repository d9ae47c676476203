import TraitDoc.Proofs.Denotation
import TraitDoc.Proofs.Loading
/-!
# Paths that leave their directory

The sources of a project are read from its source directory and its trait files
go to its target directory, each by a path that is joined to the directory. In
settings that have been loaded the directories are absolute and the joined paths
are relative, but relative paths can lead up. So a file may well be outside.

Whether it is can be read off the path. Each `..` takes back the name before it,
and where there is none left it leads up by one level of the directory. In the
end some levels have been left, and some names lead down from there. The file is
below the directory if these names begin with those of the levels that have been
left, and go on; where no level has been left, that is to say if there is a name.

## Main definitions

* `FilePath.reduced` — the levels up and the names down that names come to.
* `FilePath.Below` — a path leads to a place strictly below a directory.
* `FilePath.Descends` — a relative path comes back to where it began, and goes on.
* `FilePath.IsPlain` — a relative path that has a name, but not `..`.

## Main statements

* `FilePath.foldl_follow` — where names lead.
* `Settings.paths_below_iff` — when the source and the trait file of a name stay
  below their directories.
* `Settings.below_of_defaults` — those of the default names do.
* `Settings.paths_escape` — those of other names do not always.
-/

namespace TraitDoc

namespace FilePath

/-! ## Levels up and names down -/

/-- One more name after some levels up and names down. -/
def climb (done : Nat × List Text) (name : Text) : Nat × List Text :=
  if name = parentName then
    if done.2 = [] then (done.1 + 1, []) else (done.1, done.2.dropLast)
  else (done.1, done.2 ++ [name])

/-- The levels up and then the names down that names come to. -/
def reduced (names : List Text) : Nat × List Text := names.foldl climb (0, [])

/-- The place so many levels up and these names down from a place; above the root is the root. -/
def reach (place : Place) (done : Nat × List Text) : Place :=
  place.take (place.length - done.1) ++ done.2

theorem follow_reach (place : Place) (done : Nat × List Text) (name : Text) :
    follow (reach place done) name = reach place (climb done name) := by
  unfold follow climb
  by_cases hname : name = parentName
  · rw [if_pos hname, if_pos hname]
    by_cases hnil : done.2 = []
    · rw [if_pos hnil, reach, reach, hnil, List.append_nil, List.append_nil,
        List.dropLast_eq_take, List.take_take, List.length_take]
      congr 1
      omega
    · rw [if_neg hnil, reach, reach, List.dropLast_append_of_ne_nil hnil]
  · rw [if_neg hname, if_neg hname, reach, reach, List.append_assoc]

theorem foldl_follow_reach (place : Place) (names : List Text) :
    ∀ done : Nat × List Text,
      names.foldl follow (reach place done) = reach place (names.foldl climb done) := by
  induction names with
  | nil => exact fun _ => rfl
  | cons name names ih =>
    intro done
    rw [List.foldl_cons, List.foldl_cons, follow_reach]
    exact ih (climb done name)

/-- Names lead so many levels up as they come to, and from there down. -/
theorem foldl_follow (place : Place) (names : List Text) :
    names.foldl follow place = reach place (reduced names) := by
  have hplace : reach place (0, []) = place := by
    rw [reach, Nat.sub_zero, List.take_length, List.append_nil]
  calc
    names.foldl follow place = names.foldl follow (reach place (0, [])) := by rw [hplace]
    _ = reach place (reduced names) := foldl_follow_reach place names (0, [])

/-- Names without `..` lead down, all of them. -/
theorem reduced_of_not_mem {names : List Text} (h : parentName ∉ names) :
    reduced names = (0, names) := by
  have hall : ∀ (names down : List Text), parentName ∉ names →
      names.foldl climb (0, down) = (0, down ++ names) := by
    intro names
    induction names with
    | nil =>
      intro down _
      rw [List.append_nil]
      rfl
    | cons name names ih =>
      intro down hnot
      rw [List.mem_cons, not_or] at hnot
      rw [List.foldl_cons, climb, if_neg (Ne.symm hnot.1), ih _ hnot.2, List.append_assoc]
      rfl
  exact hall names [] h

/-! ## Below a directory -/

/-- A path leads to a place strictly below the one to which another path leads. -/
def Below (standing : Standing) (directory p : FilePath) : Prop :=
  ∃ place name rest, directory.place? standing = some place ∧
    p.place? standing = some (place ++ name :: rest)

/-- From a place a relative path comes back to it, if it left it, and goes on. -/
def Descends (place : Place) (p : FilePath) : Prop :=
  ∃ name rest, (reduced p.names).2 = place.drop (place.length - (reduced p.names).1) ++ name :: rest

/-- Names lead below a place if they descend from it, and only then. -/
theorem reach_eq_append_iff (place : Place) (p : FilePath) :
    (∃ name rest, reach place (reduced p.names) = place ++ name :: rest) ↔ Descends place p := by
  have hcut : ∀ down : Place, place ++ down = place.take (place.length - (reduced p.names).1) ++
      (place.drop (place.length - (reduced p.names).1) ++ down) := by
    intro down
    rw [← List.append_assoc, List.take_append_drop]
  constructor
  · intro h
    obtain ⟨name, rest, hreach⟩ := h
    exact ⟨name, rest, List.append_cancel_left (hreach.trans (hcut _))⟩
  · intro h
    obtain ⟨name, rest, hdown⟩ := h
    refine ⟨name, rest, ?_⟩
    rw [hcut, ← hdown]
    rfl

/-- A relative path that is joined to an absolute one leads below it if it descends from there. -/
theorem below_join_iff {directory p : FilePath} (habsolute : directory.isAbsolute = true)
    (hrelative : p.isAbsolute = false) (standing : Standing) :
    Below standing directory (directory.join p) ↔ Descends (settle directory.names) p := by
  have hjoin : (directory.join p).isAbsolute = true := isAbsolute_join habsolute p
  have hplace : (directory.join p).place? standing =
      some (reach (settle directory.names) (reduced p.names)) := by
    have hnames : (directory.join p).names = directory.names ++ p.names := by
      simp [join, hrelative]
    rw [place?_of_isAbsolute hjoin, hnames, settle, List.foldl_append, foldl_follow]
    rfl
  rw [← reach_eq_append_iff, Below, place?_of_isAbsolute habsolute, hplace]
  simp

/-- The path is relative and has a name, but not `..`. -/
def IsPlain (p : FilePath) : Prop := p.isAbsolute = false ∧ parentName ∉ p.names ∧ p.names ≠ []

instance (p : FilePath) : Decidable p.IsPlain :=
  inferInstanceAs (Decidable (p.isAbsolute = false ∧ parentName ∉ p.names ∧ p.names ≠ []))

theorem IsPlain.descends {p : FilePath} (h : p.IsPlain) (place : Place) : Descends place p := by
  obtain ⟨-, hparent, hnames⟩ := h
  obtain ⟨name, rest, hp⟩ := List.exists_cons_of_ne_nil hnames
  refine ⟨name, rest, ?_⟩
  rw [reduced_of_not_mem hparent, Nat.sub_zero, List.drop_length, List.nil_append]
  exact hp

/-- A plain path that is joined to an absolute one leads below it. -/
theorem IsPlain.below_join {directory p : FilePath} (h : p.IsPlain)
    (habsolute : directory.isAbsolute = true) (standing : Standing) :
    Below standing directory (directory.join p) :=
  (below_join_iff habsolute h.1 standing).2 (h.descends _)

theorem isAbsolute_ofText_of_head? {t : Text} (h : t.head? ≠ some '/') :
    (ofText t).isAbsolute = false := by
  cases t with
  | nil => rfl
  | cons c t =>
    have hc : (c == '/') = false := by
      rw [List.head?_cons] at h
      simpa using h
    simp [ofText, isAbsolute, anchorOf, hc]

end FilePath

/-! ## The files of a project -/

namespace Settings

open FilePath (Below Descends settle)

variable {s : Settings} {filename : Text}

theorem stem_initial (s : Settings) (filename : Text) : s.stem filename <+: filename := by
  unfold stem Text.withoutEnd
  split
  · split
    · exact List.nil_prefix
    · exact List.take_prefix _ _
  · exact List.prefix_refl _

/-- The name of a trait file is relative where that of its source is. -/
theorem head?_target (hsuffix : s.targetSuffix.head? = some '.')
    (hname : filename.head? ≠ some '/') : (s.stem filename ++ s.targetSuffix).head? ≠ some '/' := by
  obtain ⟨rest, hrest⟩ := s.stem_initial filename
  cases hstem : s.stem filename with
  | nil =>
    rw [List.nil_append, hsuffix]
    decide
  | cons c stem =>
    rw [hstem] at hrest
    rw [← hrest] at hname
    exact hname

/--
**In settings that have been loaded, whatever reads the documents, the source of
a name is below the source directory exactly if the name descends from there, and
its trait file is below the target directory exactly if the name with the other
suffix does.**
-/
theorem paths_below_iff {parse : Text → Except Yaml.Fault Yaml.Value} {p : FilePath}
    {w w' : Workspace} (h : w.run (loadWith parse p) = (.ok s, w'))
    (hname : filename ∈ s.filenames) (standing : Standing) :
    (Below standing s.sourceDir (s.sourcePath filename) ↔
      Descends (settle s.sourceDir.names) (.ofText filename)) ∧
    (Below standing s.targetDir (s.targetPath filename) ↔
      Descends (settle s.targetDir.names) (.ofText (s.stem filename ++ s.targetSuffix))) := by
  rw [Workspace.run_loadWith] at h
  have hvalid := Workspace.valid_of_loaded (Prod.mk.inj h).1
  have hrelative := (hvalid.filename_relative filename hname).2
  have htarget := head?_target hvalid.targetSuffix_head hrelative
  exact ⟨FilePath.below_join_iff hvalid.sourceDir_isAbsolute
      (FilePath.isAbsolute_ofText_of_head? hrelative) standing,
    FilePath.below_join_iff hvalid.targetDir_isAbsolute
      (FilePath.isAbsolute_ofText_of_head? htarget) standing⟩

/-- The default names are plain, so the default settings keep all files below. -/
theorem below_of_defaults {root : FilePath} (hroot : root.isAbsolute = true)
    (hname : filename ∈ Default.filenames) (standing : Standing) :
    Below standing (defaults root).sourceDir ((defaults root).sourcePath filename) ∧
    Below standing (defaults root).targetDir ((defaults root).targetPath filename) := by
  have hplain : ∀ filename ∈ Default.filenames, (FilePath.ofText filename).IsPlain ∧
      (FilePath.ofText ((defaults ⟨.root, []⟩).stem filename ++ Default.targetSuffix)).IsPlain := by
    decide
  obtain ⟨hsource, htarget⟩ := hplain filename hname
  exact ⟨hsource.below_join (FilePath.isAbsolute_join hroot _) standing,
    htarget.below_join (FilePath.isAbsolute_join hroot _) standing⟩

/-! ## A name that leads up -/

/-- A project whose only name leads out of the source directory. -/
def escapingWorkspace : Workspace where
  tree := .directory [
    (".tagdoc.yml".toList, .file (Text.encode
      "src_dir: src\ndocsrc_dir: out\nfilenames: [../A.java]\n".toList)),
    ("A.java".toList, .file (Text.encode "/** A. */\npublic @interface A \x7b\n\x7d\n".toList)),
    ("src".toList, .directory [])]
  standing := .at []
  homes := fun _ => none
  now := []

/-- The settings of that project. -/
def escapingSettings : Settings :=
  { Settings.defaults (.ofText "/".toList) with
    sourceDir := .ofText "/src".toList
    targetDir := .ofText "/out".toList
    filenames := ["../A.java".toList] }

private theorem load_escaping :
    escapingWorkspace.run (loadWith (Yaml.read documentDepth) (.ofText ['.'])) =
      (.ok escapingSettings, escapingWorkspace) :=
  Workspace.run_loadWith_of_toOption (by decide +kernel)

/-- Both conditions for a name that leads one level up and down elsewhere. -/
theorem paths_below_iff_escaping :
    escapingWorkspace.run (loadWith (Yaml.read documentDepth) (.ofText ['.'])) =
      (.ok escapingSettings, escapingWorkspace) ∧
    "../A.java".toList ∈ escapingSettings.filenames ∧
    (Below escapingWorkspace.standing escapingSettings.sourceDir
        (escapingSettings.sourcePath "../A.java".toList) ↔
      Descends (settle escapingSettings.sourceDir.names) (.ofText "../A.java".toList)) ∧
    (Below escapingWorkspace.standing escapingSettings.targetDir
        (escapingSettings.targetPath "../A.java".toList) ↔
      Descends (settle escapingSettings.targetDir.names)
        (.ofText (escapingSettings.stem "../A.java".toList ++ escapingSettings.targetSuffix))) := by
  have hname : "../A.java".toList ∈ escapingSettings.filenames := by decide
  exact ⟨load_escaping, hname, paths_below_iff load_escaping hname _⟩

/-- Settings can be loaded of which neither the source nor the trait file of a name stays below. -/
theorem paths_escape :
    ¬ ∀ (parse : Text → Except Yaml.Fault Yaml.Value) (p : FilePath) (s : Settings)
      (w w' : Workspace) (filename : Text) (standing : Standing),
      w.run (loadWith parse p) = (.ok s, w') → filename ∈ s.filenames →
        Below standing s.sourceDir (s.sourcePath filename) ∧
        Below standing s.targetDir (s.targetPath filename) := by
  intro hbelow
  obtain ⟨-, place, name, rest, hdirectory, htarget⟩ := hbelow _ _ _ _ _ "../A.java".toList
    (.at []) load_escaping (by decide)
  have hplace : place = ["out".toList] := by
    have hout : escapingSettings.targetDir.place? (.at []) = some ["out".toList] := by decide
    exact Option.some.inj (hdirectory.symm.trans hout)
  have houtside : (escapingSettings.targetPath "../A.java".toList).place? (.at []) =
      some ["A.scala".toList] := by
    decide
  rw [houtside, hplace] at htarget
  simp at htarget

end Settings

end TraitDoc
