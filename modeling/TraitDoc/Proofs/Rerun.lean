import TraitDoc.Proofs.Footprint
import TraitDoc.Proofs.OnTheWay
/-!
# Runs that are repeated

A run that ended well can be repeated: the second run reads the sources that the
first one read, makes no directory, and writes over every trait file what is
there. The tree stays as it is, to the order of the entries in its directories.

Three things have to be seen. What the first run wrote is no source of the
second, provided that no trait file goes where a source is. Every path that the
first run wrote through leads to a file now, so the directories on the way to it
are there, and the host can refuse nothing. And writing the trait files again in
the same order changes nothing, though some of them may go to one place and
cover each other: what stands there in the end is the last one, before as after.

Nothing is said of a trait file that goes where a source is. The second run
reads a trait there where the first one read an annotation.

## Main definitions

* `Settings.Apart` — no trait file goes where a source is.
* `TraitFile.write?` — the place and the bytes of a trait file.

## Main statements

* `StoredAll.eq_overwrite` — storing over files is nothing but writing over them.
* `StoredAll.again` — what has been stored is stored again without a change.
* `Run.perform_again` — a second run repeats the first.
-/

namespace TraitDoc

open FileTree

/-! ## Storing again -/

section Storing

variable {t u v : FileTree} {standing : Standing} {file : TraitFile} {files : List TraitFile}
  {place : Place}

theorem FileTree.Keeps.holdsFile (h : t.Keeps u) (hfile : t.HoldsFile place) :
    u.HoldsFile place := by
  obtain ⟨content, hcontent⟩ := hfile
  obtain ⟨later, hlater, hkind⟩ := h place _ hcontent
  cases later with
  | file bytes => exact ⟨bytes, hlater⟩
  | directory => cases hkind.1 rfl

/-- The trait file's path leads to a file that is there. -/
def TraitFile.Covers (standing : Standing) (t : FileTree) (file : TraitFile) : Prop :=
  ∃ place, t.target standing file.path = .ok (some place) ∧ t.HoldsFile place

theorem TraitFile.Covers.keep (h : file.Covers standing t) (hkeeps : t.Keeps u) :
    file.Covers standing u := by
  obtain ⟨place, hleads, hfile⟩ := h
  exact ⟨place, hkeeps.target hleads, hkeeps.holdsFile hfile⟩

/-- What storing a trait file writes, and where; nothing if its path spells no place. -/
def TraitFile.write? (standing : Standing) (file : TraitFile) : Option (Place × ByteArray) :=
  (file.path.place? standing).map fun place => (place, Text.encode file.contents)

theorem TraitFile.write?_of_target (h : t.target standing file.path = .ok (some place)) :
    file.write? standing = some (place, Text.encode file.contents) := by
  rw [write?, place?_of_target h, Option.map_some]

/-- All that storing trait files writes, in turn. -/
def writes (standing : Standing) (files : List TraitFile) : List (Place × ByteArray) :=
  files.filterMap (·.write? standing)

theorem writes_cons (h : t.target standing file.path = .ok (some place)) :
    writes standing (file :: files) =
      (place, Text.encode file.contents) :: writes standing files :=
  List.filterMap_cons_some (TraitFile.write?_of_target h)

/-- Where trait files cover files, their writes do. -/
theorem holdsFile_of_mem_writes (hcovers : ∀ file ∈ files, file.Covers standing t)
    {write : Place × ByteArray} (h : write ∈ writes standing files) : t.HoldsFile write.1 := by
  obtain ⟨file, hin, hwrite⟩ := List.mem_filterMap.1 h
  obtain ⟨place, hleads, hfile⟩ := hcovers file hin
  rw [TraitFile.write?_of_target hleads] at hwrite
  rw [← Option.some.inj hwrite]
  exact hfile

/-- Storing a trait file over a file puts one file, and nothing else. -/
theorem TraitFile.Stored.eq_put (hstands : t.Carries standing)
    (hleads : t.target standing file.path = .ok (some place)) (hfile : t.HoldsFile place)
    (h : file.Stored standing t u) : u = put (.file (Text.encode file.contents)) t place := by
  obtain ⟨between, hmade, hwrite⟩ := h
  rw [eq_of_directoriesMade hstands hleads hfile hmade] at hwrite
  obtain ⟨goal, hgoal, -, hput⟩ := write_eq_ok_iff.1 hwrite
  rw [hleads] at hgoal
  rw [hput, ← Option.some.inj (Except.ok.inj hgoal)]

/-- Storing trait files over files is nothing but writing over them. -/
theorem StoredAll.eq_overwrite (hstands : t.Carries standing)
    (hcovers : ∀ file ∈ files, file.Covers standing t) (h : StoredAll standing t files u) :
    u = overwrite t (writes standing files) := by
  induction h with
  | nil t => rfl
  | @cons t between u first files hfirst hrest ih =>
    have hkeeps := (footprint_of_stored hstands hfirst).keeps
    obtain ⟨place, hleads, hfile⟩ := hcovers first List.mem_cons_self
    have hput := hfirst.eq_put hstands hleads hfile
    have hlater : ∀ file ∈ files, file.Covers standing between :=
      fun file hin => (hcovers file (List.mem_cons_of_mem _ hin)).keep hkeeps
    rw [ih (hkeeps.carries hstands) hlater, writes_cons hleads, hput]
    rfl

/-- Stored trait files cover the files that have been stored. -/
theorem StoredAll.covers (hstands : t.Carries standing) (h : StoredAll standing t files u) :
    ∀ file ∈ files, file.Covers standing u := by
  intro file hin
  obtain ⟨place, last, hleads, -, hthere⟩ := h.last_at hstands file hin
  exact ⟨place, hleads, _, hthere⟩

/--
Trait files that have been stored can be written once more without a change. Each
of them finds its contents where it goes, or else a later one goes there, too.
-/
theorem StoredAll.overwrite_eq (hstands : t.Carries standing) (h : StoredAll standing t files u) :
    overwrite u (writes standing files) = u := by
  induction h with
  | nil t => rfl
  | @cons t between u first files hfirst hrest ih =>
    have hbetween := (footprint_of_stored hstands hfirst).keeps.carries hstands
    have hkeeps := (footprint_of_storedAll hbetween hrest).keeps
    have hcovers := hrest.covers hbetween
    obtain ⟨place, hleads, hthere⟩ := entry?_of_stored hstands hfirst
    have hfile : u.HoldsFile place := hkeeps.holdsFile ⟨_, hthere⟩
    rw [writes_cons (hkeeps.target hleads)]
    show overwrite (put (.file (Text.encode first.contents)) u place) (writes standing files) = u
    by_cases hlater : place ∈ (writes standing files).map (·.1)
    · have hfiles : ∀ write ∈ writes standing files, u.HoldsFile write.1 :=
        fun _ hwrite => holdsFile_of_mem_writes hcovers hwrite
      rw [overwrite_put_file hfile hfiles hlater, ih hbetween]
    · have hsame : u.entry? place = some (.file (Text.encode first.contents)) := by
        rcases entry?_of_storedAll hbetween hrest hthere with ⟨-, hsame⟩ | ⟨last, hlast, -⟩
        · exact hsame
        · -- a later one that goes there would be among the writes
          obtain ⟨earlier, later, rfl, hlastleads, -⟩ := hlast
          refine absurd (List.mem_map.2 ⟨(place, Text.encode last.contents), ?_, rfl⟩) hlater
          exact List.mem_filterMap.2 ⟨last, by simp, TraitFile.write?_of_target hlastleads⟩
      rw [put_file_eq_self hsame, ih hbetween]

/-- What has been stored is stored again without a change. -/
theorem StoredAll.again (hstands : t.Carries standing) (h : StoredAll standing t files u)
    (hagain : StoredAll standing u files v) : v = u := by
  have hkeeps := (footprint_of_storedAll hstands h).keeps
  rw [hagain.eq_overwrite (hkeeps.carries hstands) (h.covers hstands), h.overwrite_eq hstands]

end Storing

/-! ## Rendering again -/

/-- No trait file goes where a source is. -/
def Settings.Apart (s : Settings) (standing : Standing) : Prop :=
  ∀ f ∈ s.filenames, ∀ g ∈ s.filenames, ∀ place ∈ (s.targetPath f).place? standing,
    (s.sourcePath g).place? standing ≠ some place

instance (s : Settings) (standing : Standing) : Decidable (s.Apart standing) :=
  inferInstanceAs (Decidable (∀ f ∈ s.filenames, ∀ g ∈ s.filenames,
    ∀ place ∈ (s.targetPath f).place? standing, (s.sourcePath g).place? standing ≠ some place))

namespace Workspace

variable {w v : Workspace} {s : Settings} {files : List TraitFile}

/-- What has been rendered is rendered again where the source is read again. -/
theorem render_again {filename : Text} {file : TraitFile}
    (hagain : ∀ text, w.textAt (s.sourcePath filename) = .ok text →
      v.textAt (s.sourcePath filename) = .ok text)
    (h : w.render s filename = .ok file) : v.render s filename = .ok file := by
  obtain ⟨text, htext, hfile⟩ := bind_eq_ok_iff.1 h
  exact bind_eq_ok_iff.2 ⟨text, hagain text htext, hfile⟩

theorem renderAll_of_render (h : ∀ file ∈ files, w.render s file.filename = .ok file) :
    w.renderAll s (files.map (·.filename)) = .ok files := by
  induction files with
  | nil => rfl
  | cons file files ih =>
    have hrest := ih fun other hother => h other (List.mem_cons_of_mem _ hother)
    rw [renderAll] at hrest ⊢
    rw [List.map_cons, List.mapM_cons, h file List.mem_cons_self, hrest]
    rfl

/-- A text is read again if none of the paths through which files were stored leads there. -/
theorem textAt_of_footprint {p : FilePath} {text : Text} {paths : List FilePath}
    (hstanding : v.standing = w.standing) (hprint : Footprint w.standing paths w.tree v.tree)
    (hpast : ∀ q ∈ paths, ∀ place ∈ q.place? w.standing, p.place? w.standing ≠ some place)
    (h : w.textAt p = .ok text) : v.textAt p = .ok text := by
  unfold textAt at h ⊢
  cases hread : w.answer p FileTree.read with
  | error fault =>
    rw [hread] at h
    cases h
  | ok bytes =>
    rw [hread] at h
    obtain ⟨hnull, hbytes⟩ := answer_eq_ok_iff.1 hread
    obtain ⟨place, hleads, hfile⟩ := read_eq_ok_iff.1 hbytes
    have hstill := hprint.entry?_eq_file hfile fun q hq hplace =>
      hpast q hq place (place?_of_target hplace) (place?_of_target hleads)
    have hagain : v.answer p FileTree.read = .ok bytes := by
      apply answer_eq_ok_iff.2
      rw [hstanding]
      exact ⟨hnull, read_eq_ok_iff.2 ⟨place, hprint.keeps.target hleads, hstill⟩⟩
    rw [hagain]
    exact h

end Workspace

/-! ## Runs -/

namespace Workspace

variable {w w' : Workspace} {j : Journal}

theorem run_bind_eq_ok {α β : Type} {x : ExceptT Failure (StateM Workspace) α}
    {f : α → ExceptT Failure (StateM Workspace) β} {b : β}
    (h : w.run (x >>= f) = (.ok b, w')) :
    ∃ a between, w.run x = (.ok a, between) ∧ between.run (f a) = (.ok b, w') := by
  rw [run_bind] at h
  rcases hx : w.run x with ⟨failure | a, between⟩
  · rw [hx] at h
    cases (Prod.mk.inj h).1
  · rw [hx] at h
    exact ⟨a, between, rfl, h⟩

/-- A file that has been written has no null character in its path. -/
theorem not_mem_of_write {p : FilePath} {content : ByteArray} {a : Unit}
    (h : w.run (fromFile (Host.write p content)) = (.ok a, w')) : '\x00' ∉ p.toText := by
  intro hin
  have hwrite : w.ask (Host.write p content) = (.error .nullInPath, w) := by
    show w.change p _ = _
    rw [change, answer, if_pos hin]
  rw [run_fromFile, hwrite] at h
  cases (Prod.mk.inj h).1

theorem not_mem_of_writeTraits {files : List TraitFile} {a : Unit} {w w' : Workspace}
    (h : w.run (Run.writeTraits j files) = (.ok a, w')) :
    ∀ file ∈ files, '\x00' ∉ file.path.toText := by
  induction files generalizing w with
  | nil => simp
  | cons file files ih =>
    unfold Run.writeTraits at h
    obtain ⟨_, between, hfile, hrest⟩ := run_bind_eq_ok h
    unfold Run.writeTrait at hfile
    obtain ⟨_, made, -, hmade⟩ := run_bind_eq_ok hfile
    obtain ⟨_, written, hwrite, -⟩ := run_bind_eq_ok hmade
    intro other hother
    rcases List.mem_cons.1 hother with rfl | hother
    · exact not_mem_of_write hwrite
    · exact ih hrest other hother

end Workspace

namespace Run

variable {w w' v : Workspace} {s : Settings} {j k : Journal} {files : List TraitFile}

/-- A run that ends well has written every trait file. -/
theorem not_mem_of_perform (h : w.run (perform s j false) = (.ok files, w')) :
    ∀ file ∈ files, '\x00' ∉ file.path.toText := by
  unfold perform at h
  obtain ⟨_, told, -, htold⟩ := Workspace.run_bind_eq_ok h
  obtain ⟨made, rendered, -, hrendered⟩ := Workspace.run_bind_eq_ok htold
  rw [if_neg Bool.false_ne_true] at hrendered
  obtain ⟨_, written, hwritten, hlast⟩ := Workspace.run_bind_eq_ok hrendered
  obtain ⟨_, ended, -, hend⟩ := Workspace.run_bind_eq_ok hlast
  have hfiles : made = files := Except.ok.inj (Prod.mk.inj hend).1
  rw [← hfiles]
  exact Workspace.not_mem_of_writeTraits hwritten

/-- What a run that ended well has rendered is rendered again in the tree that it left. -/
private theorem renderAll_again {tree : FileTree} (hstands : w.tree.Carries w.standing)
    (hapart : s.Apart w.standing) (hends : Ends w s false (.ok files) tree)
    (htree : v.tree = tree) (hstanding : v.standing = w.standing) :
    v.renderAll s (sorted s.filenames) = .ok files := by
  have hprint := footprint_of_ends hstands hends
  rw [← htree] at hprint
  cases hends with
  | stored hrender hstored =>
    obtain ⟨hnames, hrendered⟩ := Workspace.renderAll_eq_ok hrender
    rw [← hnames]
    apply Workspace.renderAll_of_render
    intro file hfile
    have hsource : file.filename ∈ s.filenames := by
      apply (sorted_perm s.filenames).mem_iff.1
      rw [← hnames]
      exact List.mem_map_of_mem hfile
    refine Workspace.render_again (fun text htext => ?_) (hrendered file hfile)
    apply Workspace.textAt_of_footprint hstanding hprint _ htext
    intro path hpath place hplace
    obtain ⟨filename, hin, rfl⟩ := List.mem_map.1 hpath
    exact hapart filename hin file.filename hsource place hplace

/--
**A run that ended well can be repeated, if no trait file goes where a source
is: a run of the same settings in the tree that it left answers the same trait
files and leaves all but the messages as it was.**
-/
theorem perform_again (hj : j.WritesNoFile) (hk : k.WritesNoFile)
    (hstands : w.tree.Carries w.standing) (hapart : s.Apart w.standing)
    (h : w.run (perform s j false) = (.ok files, w')) (htree : v.tree = w'.tree)
    (hstanding : v.standing = w'.standing) :
    ∃ errors, v.run (perform s k false) = (.ok files, v.withErrors errors) := by
  have hnull := not_mem_of_perform h
  obtain ⟨answer, tree, _, hends, hrun⟩ := perform_ends hj w s false
  rw [hrun] at h
  obtain ⟨hanswer, hw'⟩ := Prod.mk.inj h
  rw [hanswer] at hends
  rw [← hw'] at htree hstanding
  have hstored : StoredAll v.standing w.tree files v.tree := by
    rw [hstanding, htree]
    cases hends with
    | stored hrender hstored => exact hstored
  have hbegan : w.tree.Carries v.standing := by
    rw [hstanding]
    exact hstands
  have hends' := (footprint_of_storedAll hbegan hstored).keeps.carries hbegan
  have hrender := renderAll_again hstands hapart hends htree hstanding
  obtain ⟨answer', tree', errors, hsecond, hrun'⟩ := perform_ends hk v s false
  refine ⟨errors, ?_⟩
  rw [hrun']
  rcases hsecond.of_rendered hrender with
    ⟨hfiles, hagain⟩ | ⟨done, file, rest, stored, fault, errors, hsplit, -, hdone, hrefuses⟩
  · rw [hfiles, hstored.again hbegan hagain]
    rfl
  · -- what is there after the files before it is a file still, and can be written over
    have hin : file ∈ files := by
      rw [hsplit]
      simp
    have hkeeps := (footprint_of_storedAll hends' hdone).keeps
    obtain ⟨place, hleads, hfile⟩ := (hstored.covers hbegan file hin).keep hkeeps
    exact absurd hrefuses
      (Workspace.not_refuses (hkeeps.carries hends') (hnull file hin) hleads hfile)

/-- The run in which two trait files go to one place can be repeated, too. -/
theorem perform_again_twice :
    Journal.fresh.WritesNoFile ∧ twiceWorkspace.tree.Carries twiceWorkspace.standing ∧
    twiceSettings.Apart twiceWorkspace.standing ∧
    ∃ w' errors, twiceWorkspace.run (perform twiceSettings Journal.fresh false) =
        (.ok twiceFiles, w') ∧
      w'.run (perform twiceSettings Journal.fresh false) =
        (.ok twiceFiles, w'.withErrors errors) := by
  have hj : Journal.fresh.WritesNoFile := fun path hin => by cases hin
  have hstands : twiceWorkspace.tree.Carries twiceWorkspace.standing := rfl
  have hapart : twiceSettings.Apart twiceWorkspace.standing := by decide +kernel
  obtain ⟨w', hrun⟩ := run_twice
  obtain ⟨errors, hagain⟩ := perform_again hj hj hstands hapart hrun rfl rfl
  exact ⟨hj, hstands, hapart, w', errors, hrun, hagain⟩

end Run

end TraitDoc
