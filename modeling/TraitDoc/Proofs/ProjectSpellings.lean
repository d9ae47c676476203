import TraitDoc.Proofs.WellFormed
/-!
# The paths that name a project

A project is named by its directory, by its settings file, and by any other name
in its directory. What stands under that name does not matter, as long as it is
no directory, which would be a project of its own: all these paths lead to one
settings file, and from there on loading is the same.

So it is enough to know what the system says of a name in a directory that is
there. It says what stands under it, or that nothing does. A name can only be
too long, by itself or with the path before it; that is no answer, and loading
stops there. A path with the null character is never handed to the system and
leads nowhere.

## Main definitions

* `FilePath.Fits` — a name in a directory is not too long for a system.

## Main statements

* `FileTree.target_join` — where a name in a directory leads.
* `Workspace.entryKind?_join`, `Workspace.entryKind?_join_of_not_fits` — what
  the system says of a name in a directory.
* `Workspace.located_of_isAbsolute` — the settings file that a path leads to.
* `Settings.load_spellings` — all names of a project load the same settings.
-/

namespace TraitDoc

/-! ## A name in a directory -/

namespace FilePath

instance (name : Text) : Decidable (IsName name) := inferInstanceAs (Decidable (_ ∧ _ ∧ _))

theorem ofText_of_isName {name : Text} (h : IsName name) : ofText name = ⟨.here, [name]⟩ := by
  obtain ⟨hne, hstay, hslash⟩ := h
  have hanchor : anchorOf name = .here := by
    cases name with
    | nil => exact absurd rfl hne
    | cons c name =>
      have hc : (c == '/') = false := by
        simpa using Ne.symm (List.ne_of_not_mem_cons hslash)
      simp [anchorOf, hc]
  rw [ofText, hanchor, Text.splitAt_of_not_mem hslash]
  simp [hne, hstay]

theorem account?_of_isAbsolute {p : FilePath} (h : p.isAbsolute = true) : p.account? = none := by
  obtain ⟨anchor, names⟩ := p
  cases anchor with
  | here => cases h
  | root => rfl
  | doubleRoot => rfl

/--
A name in a directory is not too long for a system, and neither is its path. A
path with the null character is not handed to a system.
-/
def Fits (directory : FilePath) (name : Text) : Prop :=
  '\x00' ∈ (directory.join (.ofText name)).toText ∨
    name.byteLength ≤ FileTree.nameLimit ∧
      (directory.join (.ofText name)).toText.byteLength ≤ FileTree.pathLimit

instance (directory : FilePath) (name : Text) : Decidable (directory.Fits name) :=
  inferInstanceAs (Decidable (_ ∨ _ ∧ _))

end FilePath

namespace FileTree

variable {t : FileTree} {standing : Standing} {directory : FilePath} {place : Place} {name : Text}

/-- Names that lead to something that is there can be followed all the way. -/
theorem Leads.walk {first : Place} {names : List Text} (h : t.Leads first names place)
    (hthere : t.entry? place ≠ none) : t.walk first names = .ok place := by
  rcases h with ⟨rfl, rfl⟩ | ⟨front, last, dir, rfl, hwalk, hstep⟩
  · rfl
  · have hplace := (step_eq_ok_iff.1 hstep).2.2
    rw [hplace] at hstep hthere ⊢
    exact walk_append_eq_ok_iff.2 ⟨dir, hwalk, walk_cons_eq_ok_iff.2 ⟨hstep, hthere, rfl⟩⟩

/-- The walk along an absolute path begins at the root, so it leads to some place if it succeeds. -/
theorem target_ne_none {p : FilePath} (h : p.isAbsolute = true) :
    t.target standing p ≠ .ok none := by
  intro htarget
  rw [target, if_pos h] at htarget
  split at htarget
  · cases htarget
  · simp only [bind, Except.bind, Standing.enter_at] at htarget
    split at htarget
    · cases htarget
    · cases hwalk : t.walk [] p.names.dropLast with
      | error cause => simp [hwalk] at htarget
      | ok dir =>
        rename_i last _
        cases hstep : t.step dir last <;> simp [hwalk, hstep, pure, Except.pure] at htarget

theorem leads_of_target {p : FilePath} (h : p.isAbsolute = true)
    (htarget : t.target standing p = .ok (some place)) : t.Leads [] p.names place := by
  obtain ⟨-, first, names, hentered, hleads⟩ := target_eq_some_iff.1 htarget
  rw [FilePath.start, if_pos h, Standing.enter_at] at hentered
  obtain ⟨rfl, rfl⟩ := Prod.mk.inj (Option.some.inj (Except.ok.inj hentered))
  exact hleads

/-- A name in a directory that is there leads out of it by one step. -/
theorem target_join (habsolute : directory.isAbsolute = true)
    (hwalk : t.walk [] directory.names = .ok place) (standing : Standing) (name : Text)
    (hshort : (directory.join ⟨.here, [name]⟩).toText.byteLength ≤ pathLimit) :
    t.target standing (directory.join ⟨.here, [name]⟩) = (t.step place name).map some := by
  have hjoin : (directory.join ⟨.here, [name]⟩).isAbsolute = true := habsolute
  have hnames : (directory.join ⟨.here, [name]⟩).names = directory.names ++ [name] := rfl
  rw [target, if_neg (Nat.not_lt.2 hshort), if_pos hjoin, hnames]
  simp only [bind, Except.bind, Standing.enter_at, List.getLast?_concat, List.dropLast_concat,
    hwalk]
  cases t.step place name <;> rfl

/-- A name other than `..` leads down from a directory, unless it is too long. -/
theorem step_of_directory (hdirectory : t.entry? place = some .directory)
    (hname : name ≠ FilePath.parentName) : t.step place name =
      if nameLimit < name.byteLength then .error .nameTooLong else .ok (place ++ [name]) := by
  obtain ⟨entries, hentries⟩ := at?_of_entry?_eq_directory hdirectory
  rw [step, hentries]
  dsimp only
  rw [if_neg hname]

/-- What is found under a name in a directory that is there, if the name is not too long. -/
theorem find_join (habsolute : directory.isAbsolute = true)
    (hwalk : t.walk [] directory.names = .ok place)
    (hdirectory : t.entry? place = some .directory) (hname : name ≠ FilePath.parentName)
    (hshort : name.byteLength ≤ nameLimit)
    (hwhole : (directory.join ⟨.here, [name]⟩).toText.byteLength ≤ pathLimit) :
    t.find standing (directory.join ⟨.here, [name]⟩) =
      (t.at? (place ++ [name])).elim (.error .notFound) .ok := by
  rw [find, target_join habsolute hwalk standing name hwhole, step_of_directory hdirectory hname,
    if_neg (Nat.not_lt.2 hshort)]
  show (Except.ok _ >>= _) = _
  simp only [bind, Except.bind]
  cases t.at? (place ++ [name]) <;> rfl

/-- Nothing is found under a name that is too long, or whose path is. -/
theorem find_join_of_long (habsolute : directory.isAbsolute = true)
    (hwalk : t.walk [] directory.names = .ok place)
    (hdirectory : t.entry? place = some .directory) (hname : name ≠ FilePath.parentName)
    (hlong : ¬ (name.byteLength ≤ nameLimit ∧
      (directory.join ⟨.here, [name]⟩).toText.byteLength ≤ pathLimit)) :
    t.find standing (directory.join ⟨.here, [name]⟩) = .error .nameTooLong := by
  rw [find]
  by_cases hwhole : (directory.join ⟨.here, [name]⟩).toText.byteLength ≤ pathLimit
  · have hlimit : nameLimit < name.byteLength := Nat.lt_of_not_le fun h => hlong ⟨h, hwhole⟩
    rw [target_join habsolute hwalk standing name hwhole, step_of_directory hdirectory hname,
      if_pos hlimit]
    rfl
  · rw [target, if_pos (Nat.lt_of_not_le hwhole)]
    rfl

end FileTree

/-! ## Looking at a name in a directory -/

namespace Workspace

open FileTree

variable {w : Workspace} {directory p : FilePath} {name : Text}

theorem entryKind?_eq_some_iff {kind : EntryKind} :
    w.entryKind? p = .ok (some kind) ↔ w.kind p = .ok kind := by
  unfold entryKind?
  cases w.kind p with
  | ok kind => simp
  | error fault =>
    cases fault with
    | unfit => simp
    | refused cause path =>
      dsimp only
      split <;> simp

theorem kind_eq_directory_iff : w.kind p = .ok .directory ↔
    '\x00' ∉ p.toText ∧ ∃ entries, w.tree.find w.standing p = .ok (.directory entries) := by
  rw [kind]
  constructor
  · intro h
    cases hanswer : w.answer p find with
    | error fault =>
      rw [hanswer] at h
      cases h
    | ok sub =>
      rw [hanswer] at h
      obtain ⟨hnull, hfind⟩ := answer_eq_ok_iff.1 hanswer
      cases sub with
      | file content => cases h
      | directory entries => exact ⟨hnull, entries, hfind⟩
  · rintro ⟨hnull, entries, hfind⟩
    rw [answer_eq_ok_iff.2 ⟨hnull, hfind⟩]
    rfl

/-- The names of a directory that is there can be followed from the root. -/
theorem exists_place_of_directory (habsolute : directory.isAbsolute = true)
    (hdirectory : w.entryKind? directory = .ok (some .directory)) :
    ∃ place, w.tree.walk [] directory.names = .ok place ∧
      w.tree.entry? place = some .directory := by
  obtain ⟨-, entries, hfind⟩ := kind_eq_directory_iff.1 (entryKind?_eq_some_iff.1 hdirectory)
  rcases find_eq_ok_iff.1 hfind with ⟨hnone, -⟩ | ⟨place, hplace, hat⟩
  · exact absurd hnone (target_ne_none habsolute)
  · have hentry : w.tree.entry? place = some .directory := by
      unfold entry?
      rw [hat]
      rfl
    have hthere : w.tree.entry? place ≠ none := by
      rw [hentry]
      exact Option.some_ne_none _
    exact ⟨place, (leads_of_target habsolute hplace).walk hthere, hentry⟩

/-- Of a name in a directory the system says what stands under it, or that nothing does. -/
theorem entryKind?_join (habsolute : directory.isAbsolute = true)
    (hdirectory : w.entryKind? directory = .ok (some .directory)) (hname : FilePath.IsName name)
    (hup : name ≠ FilePath.parentName) (hfits : directory.Fits name) :
    ∃ kind, w.entryKind? (directory.join (.ofText name)) = .ok kind := by
  obtain ⟨place, hwalk, hthere⟩ := exists_place_of_directory habsolute hdirectory
  unfold FilePath.Fits at hfits
  rw [FilePath.ofText_of_isName hname] at hfits ⊢
  unfold entryKind? kind
  rcases hfits with hnull | ⟨hshort, hwhole⟩
  · rw [answer, if_pos hnull]
    exact ⟨none, rfl⟩
  · by_cases hnull : '\x00' ∈ (directory.join ⟨.here, [name]⟩).toText
    · rw [answer, if_pos hnull]
      exact ⟨none, rfl⟩
    · rw [answer_of_not_mem hnull, find_join habsolute hwalk hthere hup hshort hwhole]
      cases w.tree.at? (place ++ [name]) with
      | none => exact ⟨none, rfl⟩
      | some sub => exact ⟨some _, rfl⟩

/-- Of a name that is too long the system says nothing but that. -/
theorem entryKind?_join_of_not_fits (habsolute : directory.isAbsolute = true)
    (hdirectory : w.entryKind? directory = .ok (some .directory)) (hname : FilePath.IsName name)
    (hup : name ≠ FilePath.parentName) (hlong : ¬ directory.Fits name) :
    w.entryKind? (directory.join (.ofText name)) =
      .error (.refused .nameTooLong (some (directory.join (.ofText name)))) := by
  obtain ⟨place, hwalk, hthere⟩ := exists_place_of_directory habsolute hdirectory
  unfold FilePath.Fits at hlong
  rw [FilePath.ofText_of_isName hname] at hlong ⊢
  obtain ⟨hnull, hlimits⟩ := not_or.1 hlong
  unfold entryKind? kind
  rw [answer_of_not_mem hnull, find_join_of_long habsolute hwalk hthere hup hlimits]
  rfl

/-! ## The settings file -/

/-- The settings file is in the directory to which an absolute path leads, or in which it lies. -/
theorem located_of_isAbsolute (habsolute : p.isAbsolute = true) :
    w.located p = (w.entryKind? p).mapError Failure.file >>= fun kind =>
      (w.resolved ((if kind == some .directory then p else p.parent).join
        ⟨.here, [settingsFile]⟩)).mapError .file := by
  unfold located
  rw [FilePath.expandHome_eq_self (FilePath.account?_of_isAbsolute habsolute)]
  show ((((w.entryKind? p).map (· == some .directory)).mapError Failure.file) >>= _) = _
  cases w.entryKind? p with
  | error fault => rfl
  | ok kind =>
    show (w.resolved (Settings.fileFor p (kind == some .directory))).mapError _ = _
    rw [Settings.fileFor_eq]
    rfl

/-- A name in a directory leads to the settings file in there. -/
theorem located_join (habsolute : directory.isAbsolute = true)
    (hdirectory : w.entryKind? directory = .ok (some .directory)) (hname : FilePath.IsName name)
    (hup : name ≠ FilePath.parentName)
    (hplain : w.entryKind? (directory.join (.ofText name)) ≠ .ok (some .directory))
    (hfits : directory.Fits name) :
    w.located (directory.join (.ofText name)) = w.located directory := by
  obtain ⟨kind, hkind⟩ := entryKind?_join habsolute hdirectory hname hup hfits
  have hfile : (kind == some .directory) = false := by
    rw [beq_eq_false_iff_ne]
    rintro rfl
    exact hplain hkind
  have hparent : (directory.join (.ofText name)).parent = directory := by
    rw [FilePath.ofText_of_isName hname]
    exact FilePath.parent_join directory name
  rw [located_of_isAbsolute (FilePath.isAbsolute_join habsolute _),
    located_of_isAbsolute habsolute, hkind, hdirectory, hparent]
  show (w.resolved ((if kind == some .directory then _ else directory).join _)).mapError _ = _
  rw [hfile]
  rfl

end Workspace

/-! ## Loading -/

namespace Settings

open Yaml (Value)

/--
**All names of a project load the same settings.** For a directory that is there
and a name in it that is no directory, the settings file if one likes, loading
gives the same settings or fails for the same reason and changes nothing, within
the limits of the system on names and on paths. Beyond these limits loading
fails because the name is too long.
-/
theorem load_spellings {parse : Text → Except Yaml.Fault Value} {w : Workspace}
    {directory : FilePath} {name : Text} (habsolute : directory.isAbsolute = true)
    (hdirectory : w.entryKind? directory = .ok (some .directory)) (hname : FilePath.IsName name)
    (hup : name ≠ FilePath.parentName)
    (hplain : w.entryKind? (directory.join (.ofText name)) ≠ .ok (some .directory)) :
    (directory.Fits name →
      w.run (loadWith parse (directory.join (.ofText name))) =
        w.run (loadWith parse directory)) ∧
    (¬ directory.Fits name →
      w.run (loadWith parse (directory.join (.ofText name))) =
        (.error (.file (.refused .nameTooLong (some (directory.join (.ofText name))))), w)) := by
  simp only [Workspace.run_loadWith, Workspace.loadedWith]
  constructor
  · intro hfits
    rw [Workspace.located_join habsolute hdirectory hname hup hplain hfits]
  · intro hlong
    rw [Workspace.located_of_isAbsolute (FilePath.isAbsolute_join habsolute _),
      Workspace.entryKind?_join_of_not_fits habsolute hdirectory hname hup hlong]
    rfl

/-- The directory of a project that has its own settings file. -/
def repeatingDirectory : FilePath := .ofText "/project".toList

/-- A name that leads nowhere names the project, unless it is too long for a system. -/
theorem load_spellings_notes :
    repeatingDirectory.isAbsolute = true ∧
    repeatingWorkspace.entryKind? repeatingDirectory = .ok (some .directory) ∧
    repeatingWorkspace.run (loadWith (fun _ => .ok repeatingDocument)
      (repeatingDirectory.join (.ofText "notes".toList))) =
        repeatingWorkspace.run (loadWith (fun _ => .ok repeatingDocument) repeatingDirectory) ∧
    repeatingWorkspace.run (loadWith (fun _ => .ok repeatingDocument)
      (repeatingDirectory.join (.ofText (List.replicate 256 'n')))) =
        (.error (.file (.refused .nameTooLong
          (some (repeatingDirectory.join (.ofText (List.replicate 256 'n')))))),
          repeatingWorkspace) := by
  have hdirectory : repeatingWorkspace.entryKind? repeatingDirectory = .ok (some .directory) :=
    eq_ok_of_toOption (by decide +kernel)
  refine ⟨by decide +kernel, hdirectory, ?_, ?_⟩
  · refine (load_spellings (by decide +kernel) hdirectory (by decide +kernel) (by decide +kernel)
      fun h => ?_).1 (by decide +kernel)
    exact absurd (congrArg Except.toOption h) (by decide +kernel)
  · refine (load_spellings (by decide +kernel) hdirectory (by decide +kernel) (by decide +kernel)
      fun h => ?_).2 (by decide +kernel)
    exact absurd (congrArg Except.toOption h) (by decide +kernel)

end Settings

end TraitDoc
