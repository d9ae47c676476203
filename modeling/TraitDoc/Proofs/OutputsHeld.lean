import TraitDoc.Proofs.Footprint
/-!
# Trait files that are lost

A run that ends well has stored every trait file that it answers, and still one
of them can be lost: where two of them go to one place, the later one takes the
place of the earlier one. Reading the settings drops a name that is given twice,
but it compares the names as texts. Two spellings of one path are different
names, and so are a name with and without the source suffix.

In a tree without links, and with a journal that writes to no file, that is the
only way. After a run that ends well every trait file is held by the file to
which its path leads exactly if those that go to one place have the same
contents. Whether two trait files go to one place can be seen from the settings
alone: the place is the one that the path spells.

## Main definitions

* `Workspace.Holds` — a trait file can be read where it goes.

## Main statements

* `Run.perform_holds_iff` — when no trait file is lost.
* `Run.output_lost` — settings that have been loaded can lose one.
-/

namespace TraitDoc

open FileTree

/-- The file to which the path of a trait file leads holds its contents, and no more. -/
def Workspace.Holds (w : Workspace) (file : TraitFile) : Prop :=
  w.tree.read w.standing file.path = .ok (Text.encode file.contents)

namespace Run

variable {s : Settings} {standing : Standing} {files : List TraitFile} {tree : FileTree}

/-- Where a delivered trait file goes stands the last one that goes there. -/
private theorem Delivered.last_of_mem (h : Delivered s standing files tree) {file : TraitFile}
    (hfile : file ∈ files) : ∃ place last, last ∈ files ∧
      tree.target standing file.path = .ok (some place) ∧
      tree.target standing last.path = .ok (some place) ∧
      tree.entry? place = some (.file (Text.encode last.contents)) := by
  have hname : file.filename ∈ s.filenames :=
    h.names_perm.mem_iff.1 (List.mem_map_of_mem (f := (·.filename)) hfile)
  obtain ⟨place, last, hleads, ⟨earlier, later, hfiles, hlast, -⟩, hthere⟩ :=
    h.last_there file.filename hname
  rw [← h.path_eq file hfile] at hleads
  refine ⟨place, last, ?_, hleads, hlast, hthere⟩
  rw [hfiles]
  simp

/-- Delivered trait files are all held if those that go to one place agree, and only then. -/
theorem Delivered.read_iff (h : Delivered s standing files tree) :
    (∀ file ∈ files, tree.read standing file.path = .ok (Text.encode file.contents)) ↔
      ∀ a ∈ files, ∀ b ∈ files, a.path.place? standing = b.path.place? standing →
        a.contents = b.contents := by
  constructor
  · intro hheld a ha b hb hsame
    obtain ⟨placeA, hleadsA, hthereA⟩ := read_eq_ok_iff.1 (hheld a ha)
    obtain ⟨placeB, hleadsB, hthereB⟩ := read_eq_ok_iff.1 (hheld b hb)
    rw [place?_of_target hleadsA, place?_of_target hleadsB] at hsame
    rw [← Option.some.inj hsame, hthereA] at hthereB
    have hbytes := Entry.file.inj (Option.some.inj hthereB)
    exact Text.encode_injective hbytes
  · intro hsame file hfile
    obtain ⟨place, last, hin, hleads, hlast, hthere⟩ := h.last_of_mem hfile
    have hcontents : file.contents = last.contents :=
      hsame file hfile last hin ((place?_of_target hleads).trans (place?_of_target hlast).symm)
    rw [hcontents]
    exact read_eq_ok_iff.2 ⟨place, hleads, hthere⟩

/--
**After a run that ends well no trait file is lost exactly if any two of them
that go to one place have the same contents.**
-/
theorem perform_holds_iff {j : Journal} {w w' : Workspace} (hj : j.WritesNoFile)
    (hstands : w.tree.Carries w.standing) (h : w.run (perform s j false) = (.ok files, w')) :
    (∀ file ∈ files, w'.Holds file) ↔
      ∀ a ∈ files, ∀ b ∈ files, a.path.place? w.standing = b.path.place? w.standing →
        a.contents = b.contents := by
  obtain ⟨answer, tree, errors, hends, hrun⟩ := perform_ends hj w s false
  rw [hrun] at h
  obtain ⟨rfl, rfl⟩ := Prod.mk.inj h
  exact (delivered_of_ends hstands hends).read_iff

/-- Of a source that is named twice one trait file is lost, for they go to one place and differ. -/
theorem perform_holds_iff_twice :
    Journal.fresh.WritesNoFile ∧ twiceWorkspace.tree.Carries twiceWorkspace.standing ∧
    ∃ w', twiceWorkspace.run (perform twiceSettings Journal.fresh false) = (.ok twiceFiles, w') ∧
      ((∀ file ∈ twiceFiles, w'.Holds file) ↔
        ∀ a ∈ twiceFiles, ∀ b ∈ twiceFiles,
          a.path.place? twiceWorkspace.standing = b.path.place? twiceWorkspace.standing →
            a.contents = b.contents) ∧
      ¬ ∀ file ∈ twiceFiles, w'.Holds file := by
  have hj : Journal.fresh.WritesNoFile := fun path hin => by cases hin
  have hstands : twiceWorkspace.tree.Carries twiceWorkspace.standing := rfl
  obtain ⟨w', hrun⟩ := run_twice
  have hiff := perform_holds_iff hj hstands hrun
  refine ⟨hj, hstands, w', hrun, hiff, fun hheld => ?_⟩
  exact absurd (hiff.1 hheld) (by decide)

private theorem load_twice :
    twiceWorkspace.run (Settings.loadWith (Yaml.read Settings.documentDepth) (.ofText ['.'])) =
      (.ok twiceSettings, twiceWorkspace) :=
  Workspace.run_loadWith_of_toOption (by decide +kernel)

/-- A run with settings that have been loaded can lose a trait file. -/
theorem output_lost :
    ¬ ∀ (parse : Text → Except Yaml.Fault Yaml.Value) (p : FilePath) (s : Settings) (j : Journal)
      (w w' w'' : Workspace) (files : List TraitFile),
      j.WritesNoFile → w.tree.Carries w.standing →
      w.run (Settings.loadWith parse p) = (.ok s, w') → w'.run (perform s j false) = (.ok files, w'') →
      ∀ file ∈ files, w''.Holds file := by
  intro hheld
  have hstands : twiceWorkspace.tree.Carries twiceWorkspace.standing := rfl
  obtain ⟨w', hrun⟩ := run_twice
  have hboth : ∀ file ∈ twiceFiles, w'.Holds file :=
    hheld _ _ _ _ _ _ _ _ (fun path hin => by cases hin) hstands load_twice hrun
  have hfirst := hboth (twiceFile "./A.java".toList none) (by simp [twiceFiles])
  have hsecond := hboth (twiceFile "A.java".toList (some "P".toList)) (by simp [twiceFiles])
  -- both are read at the same path
  have hbytes := Except.ok.inj (hfirst.symm.trans hsecond)
  exact absurd (Text.encode_injective hbytes) (by decide)

end Run

end TraitDoc
