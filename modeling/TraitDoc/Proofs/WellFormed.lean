import TraitDoc.Proofs.Loading
import TraitDoc.Proofs.OnTheWay
/-!
# Settings that have been loaded

Settings are loaded for a directory: the one that a path names, or the one in
which it lies. The settings file is in there, or it is not. What it gives are
entries, and what these say are settings that are well formed, whatever they are:
a value that a field could not hold is refused by the reader of its key.

Where a value has been given, the field shows it. The filenames are those given,
in the order in which they were first given; the patches are those given.

## Main definitions

* `Workspace.ProjectAt` — the directory of the project that a path names.
* `Settings.GivesFilenames`, `Settings.GivesPatches` — what values give.
* `Settings.WellFormed` — what is true of settings that entries say.

## Main statements

* `Workspace.located_eq_ok_iff` — where the settings file is.
* `Settings.Said.wellFormed` — settings that entries say are well formed.
* `Settings.wellFormed_of_load` — settings that have been loaded are.
-/

namespace TraitDoc

/-! ## The directory of a project -/

namespace FilePath

theorem parent_join (p : FilePath) (name : Text) : (p.join ⟨.here, [name]⟩).parent = p := by
  show (⟨p.anchor, (p.names ++ [name]).dropLast⟩ : FilePath) = p
  rw [List.dropLast_concat]

/-- A name other than `..` leads down from wherever the names before it lead. -/
theorem settle_append_singleton {name : Text} (hname : name ≠ parentName) (names : List Text) :
    settle (names ++ [name]) = settle names ++ [name] := by
  rw [settle, List.foldl_append, List.foldl_cons, List.foldl_nil, follow, if_neg hname]
  rfl

end FilePath

namespace Settings

/-- The settings file stands in the directory to which a path leads, or in which it lies. -/
theorem fileFor_eq (p : FilePath) (isDirectory : Bool) :
    fileFor p isDirectory = (if isDirectory then p else p.parent).join ⟨.here, [settingsFile]⟩ := by
  unfold fileFor
  cases isDirectory with
  | true => rfl
  | false =>
    rw [if_neg Bool.false_ne_true, if_neg Bool.false_ne_true]
    split
    · rename_i hlast
      have hnames : p.names ≠ [] := by
        intro hnil
        rw [FilePath.lastName, hnil] at hlast
        cases hlast
      have hend : p.names.getLast hnames = settingsFile := by
        rw [← hlast, FilePath.lastName, List.getLast?_eq_some_getLast hnames, Option.getD_some]
      show p = ⟨p.anchor, p.names.dropLast ++ [settingsFile]⟩
      rw [← hend, List.dropLast_concat_getLast]
    · rfl

end Settings

namespace Workspace

variable {w : Workspace} {p file root : FilePath}

/-- The directory of the project that a path names, spelled from the root and without `..`. -/
def ProjectAt (w : Workspace) (p root : FilePath) : Prop :=
  ∃ q isDirectory, p.expandHome w.homes = .ok q ∧
    (w.entryKind? q).map (· == some .directory) = .ok isDirectory ∧
    w.resolved (if isDirectory then q else q.parent) = .ok root

theorem fromRoot_join_iff {name : Text} {names : List Text} :
    w.FromRoot (p.join ⟨.here, [name]⟩) names ↔
      ∃ front, w.FromRoot p front ∧ names = front ++ [name] := by
  have habsolute : (p.join ⟨.here, [name]⟩).isAbsolute = p.isAbsolute := rfl
  have hnames : (p.join ⟨.here, [name]⟩).names = p.names ++ [name] := rfl
  unfold FromRoot
  rw [habsolute, hnames]
  constructor
  · rintro (⟨h, rfl⟩ | ⟨h, directory, hplace, rfl⟩)
    · exact ⟨p.names, .inl ⟨h, rfl⟩, rfl⟩
    · exact ⟨directory.names ++ p.names, .inr ⟨h, directory, hplace, rfl⟩,
        (List.append_assoc _ _ _).symm⟩
  · rintro ⟨front, ⟨h, rfl⟩ | ⟨h, directory, hplace, rfl⟩, rfl⟩
    · exact .inl ⟨h, rfl⟩
    · exact .inr ⟨h, directory, hplace, List.append_assoc _ _ _⟩

theorem resolved_join_eq_ok_iff {name : Text} (hname : name ≠ FilePath.parentName)
    (hnull : '\x00' ∉ name) : w.resolved (p.join ⟨.here, [name]⟩) = .ok file ↔
      ∃ directory, w.resolved p = .ok directory ∧ file = directory.join ⟨.here, [name]⟩ := by
  have hsettle : ∀ front : List Text, (⟨.root, FilePath.settle (front ++ [name])⟩ : FilePath) =
      (⟨.root, FilePath.settle front⟩ : FilePath).join ⟨.here, [name]⟩ := fun front => by
    rw [FilePath.settle_append_singleton hname]
    rfl
  simp only [resolved_eq_ok_iff, fromRoot_join_iff, FilePath.null_mem_join_iff hnull]
  constructor
  · rintro ⟨hfree, _, ⟨front, hfront, rfl⟩, rfl⟩
    exact ⟨_, ⟨hfree, front, hfront, rfl⟩, hsettle front⟩
  · rintro ⟨_, ⟨hfree, front, hfront, rfl⟩, rfl⟩
    exact ⟨hfree, _, ⟨front, hfront, rfl⟩, (hsettle front).symm⟩

/-- The settings file is in the directory of the project. -/
theorem located_eq_ok_iff : w.located p = .ok file ↔
    ∃ root, w.ProjectAt p root ∧ file = root.join ⟨.here, [settingsFile]⟩ := by
  have hjoin : ∀ q : FilePath, w.resolved (q.join ⟨.here, [settingsFile]⟩) = .ok file ↔
      ∃ root, w.resolved q = .ok root ∧ file = root.join ⟨.here, [settingsFile]⟩ := fun _ =>
    resolved_join_eq_ok_iff (by decide) (by decide)
  simp only [located, bind_eq_ok_iff, mapError_eq_ok_iff, Settings.fileFor_eq, hjoin]
  constructor
  · rintro ⟨q, hq, isDirectory, hkind, root, hroot, rfl⟩
    exact ⟨root, ⟨q, isDirectory, hq, hkind, hroot⟩, rfl⟩
  · rintro ⟨root, ⟨q, isDirectory, hq, hkind, hroot⟩, rfl⟩
    exact ⟨q, hq, isDirectory, hkind, root, hroot, rfl⟩

theorem exists_of_located (h : w.located p = .ok file) :
    ∃ root, w.ProjectAt p root ∧ file = root.join ⟨.here, [settingsFile]⟩ :=
  located_eq_ok_iff.1 h

theorem ProjectAt.anchor_eq (h : w.ProjectAt p root) : root.anchor = .root := by
  obtain ⟨q, isDirectory, -, -, hroot⟩ := h
  obtain ⟨-, names, -, rfl⟩ := resolved_eq_ok_iff.1 hroot
  rfl

theorem ProjectAt.not_mem (h : w.ProjectAt p root) : FilePath.parentName ∉ root.names := by
  obtain ⟨q, isDirectory, -, -, hroot⟩ := h
  obtain ⟨-, names, -, rfl⟩ := resolved_eq_ok_iff.1 hroot
  exact fun hin => FilePath.ne_parentName_of_mem_settle hin rfl

end Workspace

/-! ## What settings are -/

namespace Settings

open Yaml (Value)

variable {homes : Homes} {root : FilePath} {entries : List (Value × Value)} {s : Settings}

/-- A value gives these filenames, the default ones if it is nothing. -/
def GivesFilenames (value : Value) (given : List Text) : Prop :=
  value = .null ∧ given = Default.filenames ∨ value = .list (given.map .text)

/-- A value gives these patches, the default ones if it is nothing. -/
def GivesPatches (value : Value) (patches : List (Text × Text)) : Prop :=
  value = .null ∧ patches = Default.patches ∨ value = .mapping (patches.map patchEntry)

/-- What is true of settings that entries say. -/
structure WellFormed (entries : List (Value × Value)) (s : Settings) : Prop extends Valid s where
  filenames_nodup : s.filenames.Nodup
  filenames_first : ∃ given, GivesFilenames (field Key.filenames entries) given ∧
    FirstOccurrences given s.filenames
  patches_given : GivesPatches (field Key.patches entries) s.patches

theorem exists_given_of_filenamesOf {value : Value} {names : List Text}
    (h : filenamesOf value = .ok names) :
    ∃ given, GivesFilenames value given ∧ names = distinct given := by
  rcases filenamesOf_eq_ok_iff.1 h with ⟨rfl, rfl⟩ | ⟨given, rfl, -, rfl⟩
  · -- the default filenames are distinct as they stand
    have hdistinct : Default.filenames = distinct Default.filenames := by decide
    exact ⟨_, .inl ⟨rfl, rfl⟩, hdistinct⟩
  · exact ⟨given, .inr rfl, rfl⟩

theorem Said.wellFormed (h : Said homes root entries s) (hroot : root.isAbsolute = true) :
    WellFormed entries s := by
  obtain ⟨given, hgiven, hnames⟩ := exists_given_of_filenamesOf h.filenames_eq
  refine ⟨h.valid hroot, ?_, ⟨given, hgiven, ?_⟩, patchesOf_eq_ok_iff.1 h.patches_eq⟩
  · rw [hnames]
    exact nodup_distinct given
  · rw [hnames]
    exact firstOccurrences_distinct given

/--
**Settings that have been loaded are well formed.** They are for the directory
that the path names or in which it lies, and the settings file in there gives
the entries that they come from.
-/
theorem wellFormed_of_load {parse : Text → Except Yaml.Fault Value} {p : FilePath}
    {w w' : Workspace} (h : w.run (loadWith parse p) = (.ok s, w')) :
    w.ProjectAt p s.root ∧ s.root.isAbsolute = true ∧ FilePath.parentName ∉ s.root.names ∧
      ∃ entries, w.entriesAt parse (s.root.join ⟨.here, [settingsFile]⟩) = .ok entries ∧
        WellFormed entries s := by
  rw [Workspace.run_loadWith] at h
  obtain ⟨file, entries, hfile, hentries, hsaid⟩ :=
    Workspace.loadedWith_eq_ok_iff.1 (Prod.mk.inj h).1
  obtain ⟨root, hproject, rfl⟩ := Workspace.exists_of_located hfile
  have hparent : (root.join ⟨.here, [settingsFile]⟩).parent = s.root := hsaid.root_eq
  have hroot : root = s.root := by
    rw [← hparent]
    show root = ⟨root.anchor, (root.names ++ [settingsFile]).dropLast⟩
    rw [List.dropLast_concat]
  subst hroot
  have habsolute : s.root.isAbsolute = true := by
    rw [FilePath.isAbsolute, hproject.anchor_eq]
    rfl
  rw [hparent] at hsaid
  exact ⟨hproject, habsolute, hproject.not_mem, entries, hentries, hsaid.wellFormed habsolute⟩

/-! ## A document with a repeated filename -/

/-- A document that gives a filename twice. -/
def repeatingDocument : Value := .mapping [
  (.text Key.sourceDir, .text "src".toList),
  (.text Key.filenames,
    .list [.text "B.java".toList, .text "A.java".toList, .text "B.java".toList])]

/-- A project that has its own settings file. -/
def repeatingWorkspace : Workspace where
  tree := .directory [("project".toList, .directory [(settingsFile, .file (Text.encode
    "src_dir: src\nfilenames: [B.java, A.java, B.java]\n".toList))])]
  standing := .at ["project".toList]
  homes := fun _ => none
  now := []

/-- The settings of that project. -/
def repeatingSettings : Settings :=
  { Settings.defaults (.ofText "/project".toList) with
    sourceDir := .ofText "/project/src".toList
    filenames := ["B.java".toList, "A.java".toList] }

/-- The settings of a project are well formed, with the repeated filename once. -/
theorem wellFormed_of_load_repeating :
    repeatingWorkspace.run (loadWith (fun _ => .ok repeatingDocument) (.ofText ['.'])) =
      (.ok repeatingSettings, repeatingWorkspace) ∧
    repeatingWorkspace.ProjectAt (.ofText ['.']) repeatingSettings.root ∧
    repeatingSettings.root.isAbsolute = true ∧
    FilePath.parentName ∉ repeatingSettings.root.names ∧
      ∃ entries, repeatingWorkspace.entriesAt (fun _ => .ok repeatingDocument)
        (repeatingSettings.root.join ⟨.here, [settingsFile]⟩) = .ok entries ∧
        WellFormed entries repeatingSettings := by
  have hanswer : (repeatingWorkspace.loadedWith (fun _ => .ok repeatingDocument)
      (.ofText ['.'])).toOption = some repeatingSettings := by
    decide +kernel
  have hload : repeatingWorkspace.run
      (loadWith (fun _ => .ok repeatingDocument) (.ofText ['.'])) =
        (.ok repeatingSettings, repeatingWorkspace) := by
    rw [Workspace.run_loadWith, eq_ok_of_toOption hanswer]
  exact ⟨hload, wellFormed_of_load hload⟩

end Settings

end TraitDoc
