import TraitDoc.Proofs.Denotation
import TraitDoc.Proofs.RunEnds
/-!
# The footprint of a run

Whatever becomes of a run, the tree that it leaves differs from the tree before
in two ways only: files stand where trait files go, and directories stand on the
way there that were missing. Nothing is removed. `FileTree.Effect` says this of
one place and `FileTree.Footprint` of all of them. Footprints of single steps
add up, because a step never removes anything: a path that leads to a place
when a step is made leads there still when the run is over.

Two trait files can go to the same place, since different names can spell the
same path, and different paths the same place. They are stored in the order of
their names, so what stands there in the end are the contents of the last one.

## Main definitions

* `FileTree.Effect`, `FileTree.Footprint` — what storing files at some paths does
  to one place, and to a tree.
* `LastAt` — the last of some trait files that go to a place.
* `Run.Delivered` — what a run leaves that ends well.

## Main statements

* `footprint_of_storedAll` — the footprint of storing trait files.
* `StoredAll.last_at` — where a trait file goes stands the last one that goes there.
* `Run.perform_footprint` — the footprint of a run.
-/

namespace TraitDoc

open FileTree (DirectoriesMade EntryPut)

namespace FileTree

/-! ## Footprints -/

/-- What can have become of a place when files have been stored at some paths. -/
inductive Effect (standing : Standing) (paths : List FilePath) (before after : FileTree)
    (place : Place) : Prop
  | unchanged (h : after.entry? place = before.entry? place)
  /-- One of the paths leads to the place, and a file has been written there. -/
  | written (p : FilePath) (content : ByteArray) (hp : p ∈ paths)
    (hleads : after.target standing p = .ok (some place))
    (hbefore : before.entry? place ≠ some .directory)
    (hafter : after.entry? place = some (.file content))
  /-- The place is on the way to the directory of one of the paths; nothing was there, and a
  directory has been made. -/
  | made (p : FilePath) (names : List Text) (hp : p ∈ paths) (hnames : names <+: p.parent.names)
    (hleads : after.target standing ⟨p.anchor, names⟩ = .ok (some place))
    (hbefore : before.entry? place = none) (hafter : after.entry? place = some .directory)

/-- Storing files at some paths can have made this tree of that one. -/
def Footprint (standing : Standing) (paths : List FilePath) (before after : FileTree) : Prop :=
  ∀ place, Effect standing paths before after place

variable {t u v : FileTree} {standing : Standing} {p : FilePath} {paths more : List FilePath}

namespace Footprint

theorem refl (standing : Standing) (paths : List FilePath) (t : FileTree) :
    Footprint standing paths t t := fun _ => .unchanged rfl

theorem mono (h : Footprint standing paths t u) (hsub : paths ⊆ more) :
    Footprint standing more t u := by
  intro place
  cases h place with
  | unchanged h => exact .unchanged h
  | written p content hp hleads hbefore hafter =>
    exact .written p content (hsub hp) hleads hbefore hafter
  | made p names hp hnames hleads hbefore hafter =>
    exact .made p names (hsub hp) hnames hleads hbefore hafter

/-- Storing files removes nothing. -/
theorem keeps (h : Footprint standing paths t u) : t.Keeps u := by
  intro place entry hentry
  cases h place with
  | unchanged h => exact ⟨entry, h.trans hentry, Iff.rfl⟩
  | written p content hp hleads hbefore hafter =>
    have hfile : entry ≠ .directory := by
      intro hdir
      rw [hdir] at hentry
      exact hbefore hentry
    exact ⟨_, hafter, by simp [hfile]⟩
  | made p names hp hnames hleads hbefore hafter =>
    rw [hbefore] at hentry
    cases hentry

theorem trans (htu : Footprint standing paths t u) (huv : Footprint standing paths u v) :
    Footprint standing paths t v := by
  intro place
  have hkeeps := huv.keeps
  cases huv place with
  | unchanged hsame =>
    cases htu place with
    | unchanged h => exact .unchanged (hsame.trans h)
    | written p content hp hleads hbefore hafter =>
      exact .written p content hp (hkeeps.target hleads) hbefore (hsame.trans hafter)
    | made p names hp hnames hleads hbefore hafter =>
      exact .made p names hp hnames (hkeeps.target hleads) hbefore (hsame.trans hafter)
  | written p content hp hleads hbefore hafter =>
    refine .written p content hp hleads (fun hdir => ?_) hafter
    exact hbefore (htu.keeps.directory hdir)
  | made p names hp hnames hleads hbefore hafter =>
    exact .made p names hp hnames hleads (htu.keeps.entry?_eq_none hbefore) hafter

/-- A file to which none of the paths leads stays as it is. -/
theorem entry?_eq_file {place : Place} {content : ByteArray} (h : Footprint standing paths t u)
    (hfile : t.entry? place = some (.file content))
    (hpast : ∀ p ∈ paths, u.target standing p ≠ .ok (some place)) :
    u.entry? place = some (.file content) := by
  cases h place with
  | unchanged h => exact h.trans hfile
  | written p content hp hleads hbefore hafter => exact absurd hleads (hpast p hp)
  | made p names hp hnames hleads hbefore hafter =>
    rw [hbefore] at hfile
    cases hfile

end Footprint

/-! ## Storing trait files -/

theorem footprint_of_directoriesMade (hstands : t.Carries standing)
    (h : DirectoriesMade standing p.parent t u) : Footprint standing [p] t u := by
  induction h with
  | none t => exact .refl standing [p] t
  | more hnames hmake _ ih =>
    obtain ⟨place, hput, hnone⟩ := entryPut_of_makeDirectory hstands hmake
    have hkeeps := hput.keeps fun _ => hnone
    refine Footprint.trans (fun other => ?_) (ih (hkeeps.carries hstands))
    by_cases hother : other = place
    · rw [hother]
      exact .made p _ (by simp) hnames (hkeeps.target hput.leads) hnone hput.there
    · exact .unchanged (hput.elsewhere other hother)

theorem footprint_of_write {content : ByteArray} (hstands : t.Carries standing)
    (h : t.write standing p content = .ok u) : Footprint standing [p] t u := by
  obtain ⟨place, hput⟩ := entryPut_of_write hstands h
  have hkeeps := hput.keeps fun hdir => nomatch hdir
  intro other
  by_cases hother : other = place
  · rw [hother]
    exact .written p content (by simp) (hkeeps.target hput.leads) hput.free hput.there
  · exact .unchanged (hput.elsewhere other hother)

end FileTree

open FileTree

variable {t u : FileTree} {standing : Standing} {file : TraitFile} {files : List TraitFile}

theorem footprint_of_stored (hstands : t.Carries standing) (h : file.Stored standing t u) :
    Footprint standing [file.path] t u := by
  obtain ⟨between, hmade, hwrite⟩ := h
  have hfirst := footprint_of_directoriesMade hstands hmade
  exact hfirst.trans (footprint_of_write (hfirst.keeps.carries hstands) hwrite)

/-- Storing trait files leaves files where they go, and directories on the way. -/
theorem footprint_of_storedAll (hstands : t.Carries standing) (h : StoredAll standing t files u) :
    Footprint standing (files.map (·.path)) t u := by
  induction h with
  | nil t => exact .refl standing _ t
  | cons hfile _ ih =>
    have hfirst := footprint_of_stored hstands hfile
    refine (hfirst.mono ?_).trans ((ih (hfirst.keeps.carries hstands)).mono ?_)
    · simp
    · exact List.subset_cons_self _ _

/-! ## The last trait file at a place -/

/-- Of these trait files, this one is the last that goes to the place. -/
def LastAt (t : FileTree) (standing : Standing) (place : Place) (files : List TraitFile)
    (file : TraitFile) : Prop :=
  ∃ earlier later, files = earlier ++ file :: later ∧
    t.target standing file.path = .ok (some place) ∧
    ∀ other ∈ later, t.target standing other.path ≠ .ok (some place)

theorem LastAt.cons {place : Place} (h : LastAt t standing place files file) (first : TraitFile) :
    LastAt t standing place (first :: files) file := by
  obtain ⟨earlier, later, rfl, hfile, hlater⟩ := h
  exact ⟨first :: earlier, later, rfl, hfile, hlater⟩

/-- A stored trait file stands where it goes. -/
theorem entry?_of_stored (hstands : t.Carries standing) (h : file.Stored standing t u) :
    ∃ place, u.target standing file.path = .ok (some place) ∧
      u.entry? place = some (.file (Text.encode file.contents)) := by
  obtain ⟨between, hmade, hwrite⟩ := h
  have hbetween := (footprint_of_directoriesMade hstands hmade).keeps.carries hstands
  obtain ⟨place, hput⟩ := entryPut_of_write hbetween hwrite
  exact ⟨place, (hput.keeps fun hdir => nomatch hdir).target hput.leads, hput.there⟩

/--
A file stays as it is while trait files are stored, or else the last one that
goes to its place is there.
-/
theorem entry?_of_storedAll {place : Place} {content : ByteArray} (hstands : t.Carries standing)
    (h : StoredAll standing t files u) (hfile : t.entry? place = some (.file content)) :
    ((∀ file ∈ files, u.target standing file.path ≠ .ok (some place)) ∧
      u.entry? place = some (.file content)) ∨
    ∃ file, LastAt u standing place files file ∧
      u.entry? place = some (.file (Text.encode file.contents)) := by
  induction h generalizing content with
  | nil t => exact .inl ⟨by simp, hfile⟩
  | @cons t between u first files hfirst hrest ih =>
    have hprint := footprint_of_stored hstands hfirst
    have hbetween := hprint.keeps.carries hstands
    have hkeeps := (footprint_of_storedAll hbetween hrest).keeps
    obtain ⟨goal, hleads, hthere⟩ := entry?_of_stored hstands hfirst
    by_cases hgoal : goal = place
    · rw [hgoal] at hleads hthere
      rcases ih hbetween hthere with ⟨hother, hsame⟩ | ⟨file, hlast, hcontent⟩
      · exact .inr ⟨first, ⟨[], files, rfl, hkeeps.target hleads, hother⟩, hsame⟩
      · exact .inr ⟨file, hlast.cons first, hcontent⟩
    · have hpast : u.target standing first.path ≠ .ok (some place) := by
        intro hplace
        rw [hkeeps.target hleads] at hplace
        exact hgoal (Option.some.inj (Except.ok.inj hplace))
      have hstill := hprint.entry?_eq_file hfile fun p hp hplace =>
        hpast (List.mem_singleton.1 hp ▸ hkeeps.target hplace)
      rcases ih hbetween hstill with ⟨hother, hsame⟩ | ⟨file, hlast, hcontent⟩
      · refine .inl ⟨fun file hin => ?_, hsame⟩
        rcases List.mem_cons.1 hin with rfl | hin
        · exact hpast
        · exact hother file hin
      · exact .inr ⟨file, hlast.cons first, hcontent⟩

/-- Where a trait file goes stands the last one that goes there. -/
theorem StoredAll.last_at (hstands : t.Carries standing) (h : StoredAll standing t files u) :
    ∀ file ∈ files, ∃ place last, u.target standing file.path = .ok (some place) ∧
      LastAt u standing place files last ∧
      u.entry? place = some (.file (Text.encode last.contents)) := by
  induction h with
  | nil t => simp
  | @cons t between u first files hfirst hrest ih =>
    have hbetween := (footprint_of_stored hstands hfirst).keeps.carries hstands
    intro file hfile
    rcases List.mem_cons.1 hfile with rfl | hfile
    · obtain ⟨place, hleads, hthere⟩ := entry?_of_stored hstands hfirst
      have hlater := (footprint_of_storedAll hbetween hrest).keeps.target hleads
      rcases entry?_of_storedAll hbetween hrest hthere with
        ⟨hother, hsame⟩ | ⟨last, hlast, hcontent⟩
      · exact ⟨place, file, hlater, ⟨[], files, rfl, hlater, hother⟩, hsame⟩
      · exact ⟨place, last, hlater, hlast.cons file, hcontent⟩
    · obtain ⟨place, last, hleads, hlast, hcontent⟩ := ih hbetween file hfile
      exact ⟨place, last, hleads, hlast.cons first, hcontent⟩

/-! ## Runs -/

namespace Run

/--
What a run leaves that ends well: the trait files come in the order of their
names, each goes where the settings say and ends with the patch that they hold
under its name, and where it goes stands the last one that goes there.
-/
structure Delivered (s : Settings) (standing : Standing) (files : List TraitFile)
    (tree : FileTree) : Prop where
  names_perm : (files.map (·.filename)).Perm s.filenames
  names_sorted : (files.map (·.filename)).Pairwise fun a b => a.notAfter b = true
  path_eq : ∀ file ∈ files, file.path = s.targetPath file.filename
  contents_eq : ∀ file ∈ files,
    file.contents = file.text ++ (s.patches.lookup file.filename).getD []
  last_there : ∀ filename ∈ s.filenames, ∃ place last,
    tree.target standing (s.targetPath filename) = .ok (some place) ∧
    LastAt tree standing place files last ∧
    tree.entry? place = some (.file (Text.encode last.contents))

theorem sorted_perm (names : List Text) : (sorted names).Perm names := List.mergeSort_perm _ _

theorem pairwise_sorted (names : List Text) :
    (sorted names).Pairwise fun a b => a.notAfter b = true := by
  unfold sorted
  apply List.pairwise_mergeSort
  · exact fun _ _ _ => Text.notAfter_trans
  · exact Text.notAfter_total

/-- Sorting has one result. -/
theorem sorted_eq {names ordered : List Text} (hperm : ordered.Perm names)
    (hordered : ordered.Pairwise fun a b => a.notAfter b = true) : sorted names = ordered :=
  ((sorted_perm names).trans hperm.symm).eq_of_pairwise
    (fun _ _ _ _ hab hba => Text.notAfter_antisymm hab hba) (pairwise_sorted names) hordered

variable {w : Workspace} {s : Settings}

/-- Trait files go where the settings say. -/
private theorem path_mem_of_renderAll
    (h : w.renderAll s (sorted s.filenames) = .ok files) (hfile : file ∈ files) :
    file.path ∈ s.filenames.map s.targetPath := by
  obtain ⟨hnames, hrendered⟩ := Workspace.renderAll_eq_ok h
  have hname : file.filename ∈ sorted s.filenames :=
    hnames ▸ List.mem_map_of_mem (f := (·.filename)) hfile
  rw [(Workspace.render_eq_ok (hrendered file hfile)).2.1]
  exact List.mem_map_of_mem ((sorted_perm _).mem_iff.1 hname)

/-- However a run ends, it has stored files where trait files go, and nothing else. -/
theorem footprint_of_ends {dry : Bool} {answer : Except Failure (List TraitFile)}
    {tree : FileTree} (hstands : w.tree.Carries w.standing) (h : Ends w s dry answer tree) :
    Footprint w.standing (s.filenames.map s.targetPath) w.tree tree := by
  have hpaths : ∀ {files : List TraitFile}, w.renderAll s (sorted s.filenames) = .ok files →
      ∀ some ⊆ files, some.map (·.path) ⊆ s.filenames.map s.targetPath := by
    intro files hrender some hsome path hpath
    obtain ⟨file, hfile, rfl⟩ := List.mem_map.1 hpath
    exact path_mem_of_renderAll hrender (hsome hfile)
  cases h with
  | unrendered hrender => exact .refl _ _ _
  | rendered hrender => exact .refl _ _ _
  | stored hrender hstored =>
    exact (footprint_of_storedAll hstands hstored).mono (hpaths hrender _ (List.Subset.refl _))
  | @stopped done rest file stored tree fault errors hrender hstored hrefuses =>
    have hdone := footprint_of_storedAll hstands hstored
    have hmade := footprint_of_directoriesMade (hdone.keeps.carries hstands)
      hrefuses.directoriesMade
    refine (hdone.mono (hpaths hrender _ (List.subset_append_left _ _))).trans (hmade.mono ?_)
    have hfile : [file] ⊆ done ++ file :: rest := by simp
    exact hpaths hrender [file] hfile

/-- A run that ends well has delivered what it answers. -/
theorem delivered_of_ends {tree : FileTree} (hstands : w.tree.Carries w.standing)
    (h : Ends w s false (.ok files) tree) : Delivered s w.standing files tree := by
  cases h with
  | stored hrender hstored =>
    obtain ⟨hnames, hrendered⟩ := Workspace.renderAll_eq_ok hrender
    have hperm := sorted_perm s.filenames
    refine
      { names_perm := hnames ▸ hperm
        names_sorted := ?_
        path_eq := fun file hfile => (Workspace.render_eq_ok (hrendered file hfile)).2.1
        contents_eq := fun file hfile => ?_
        last_there := fun filename hfilename => ?_ }
    · rw [hnames]
      exact pairwise_sorted s.filenames
    · rw [TraitFile.contents, (Workspace.render_eq_ok (hrendered file hfile)).2.2]
      rfl
    · rw [← hperm.mem_iff, ← hnames, List.mem_map] at hfilename
      obtain ⟨file, hfile, rfl⟩ := hfilename
      rw [← (Workspace.render_eq_ok (hrendered file hfile)).2.1]
      exact hstored.last_at hstands file hfile

/--
**However a run ends, the tree differs from the tree before in files that stand
where trait files go and in directories that were missing on the way there, and
in nothing else; nothing is removed. After a run that ends well, where a trait
file goes stand the contents of the last one that goes there.**
-/
theorem perform_footprint {j : Journal} {dry : Bool} {w' : Workspace}
    {answer : Except Failure (List TraitFile)} (hj : j.WritesNoFile)
    (hstands : w.tree.Carries w.standing) (h : w.run (perform s j dry) = (answer, w')) :
    Footprint w.standing (s.filenames.map s.targetPath) w.tree w'.tree ∧
    w.tree.Keeps w'.tree ∧
    ∀ files, dry = false → answer = .ok files → Delivered s w.standing files w'.tree := by
  obtain ⟨answer', tree, errors, hends, hrun⟩ := perform_ends hj w s dry
  rw [hrun] at h
  obtain ⟨rfl, rfl⟩ := Prod.mk.inj h
  have hprint := footprint_of_ends hstands hends
  refine ⟨hprint, hprint.keeps, ?_⟩
  rintro files rfl rfl
  exact delivered_of_ends hstands hends

/-! ## A source that is named twice -/

/-- A project whose settings name one source in two spellings, with a patch under one of them. -/
def twiceWorkspace : Workspace where
  tree := .directory [
    (".tagdoc.yml".toList, .file (Text.encode
      "src_dir: src\ndocsrc_dir: out\nfilenames: [A.java, ./A.java]\npatches: \x7bA.java: P\x7d\n".toList)),
    ("src".toList, .directory [
      ("A.java".toList, .file (Text.encode "/** A. */\npublic @interface A \x7b\n\x7d\n".toList))])]
  standing := .at []
  homes := fun _ => none
  now := []

/-- The settings of that project. -/
def twiceSettings : Settings where
  root := .ofText "/".toList
  sourceDir := .ofText "/src".toList
  targetDir := .ofText "/out".toList
  filenames := ["A.java".toList, "./A.java".toList]
  sourceSuffix := ".java".toList
  targetSuffix := ".scala".toList
  patches := [("A.java".toList, "P".toList)]

/-- The trait file of that source under one of its names. -/
def twiceFile (filename : Text) (patch : Option Text) : TraitFile where
  filename := filename
  path := .ofText "/out/A.scala".toList
  text := "/** A. */\n trait A extends java.lang.annotation.Annotation \n".toList
  patch := patch

/-- The trait files of that project. -/
def twiceFiles : List TraitFile :=
  [twiceFile "./A.java".toList none, twiceFile "A.java".toList (some "P".toList)]

theorem run_twice : ∃ w', twiceWorkspace.run (perform twiceSettings Journal.fresh false) =
    (.ok twiceFiles, w') := by
  have hsorted : sorted twiceSettings.filenames = ["./A.java".toList, "A.java".toList] :=
    sorted_eq (by decide) (by decide)
  have hfiles : (twiceWorkspace.run (perform twiceSettings Journal.fresh false)).1.toOption =
      some twiceFiles := by
    unfold perform
    rw [hsorted]
    decide +kernel
  generalize twiceWorkspace.run (perform twiceSettings Journal.fresh false) = ended at *
  rcases ended with ⟨failure | files, w'⟩
  · cases hfiles
  · obtain rfl := Option.some.inj hfiles
    exact ⟨w', rfl⟩

/-- Where both trait files go stands the second one, in a directory that was missing. -/
theorem perform_footprint_twice :
    Journal.fresh.WritesNoFile ∧ twiceWorkspace.tree.Carries twiceWorkspace.standing ∧
    ∃ w', twiceWorkspace.run (perform twiceSettings Journal.fresh false) = (.ok twiceFiles, w') ∧
      Footprint twiceWorkspace.standing (twiceSettings.filenames.map twiceSettings.targetPath)
        twiceWorkspace.tree w'.tree ∧
      twiceWorkspace.tree.Keeps w'.tree ∧
      Delivered twiceSettings twiceWorkspace.standing twiceFiles w'.tree := by
  have hj : Journal.fresh.WritesNoFile := fun path hin => by cases hin
  have hstands : twiceWorkspace.tree.Carries twiceWorkspace.standing := rfl
  obtain ⟨w', hrun⟩ := run_twice
  obtain ⟨hprint, hkeeps, hdelivered⟩ := perform_footprint hj hstands hrun
  exact ⟨hj, hstands, w', hrun, hprint, hkeeps, hdelivered _ rfl rfl⟩

end Run

end TraitDoc
