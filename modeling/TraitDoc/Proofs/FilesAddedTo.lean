import TraitDoc.Proofs.OnTheWay
/-!
# Files that are opened and added to

To open a file is to make an empty one unless a file is there. Bytes are then
added at its end, each time through the same path. The path begins at the root
and has no `..`, so its names are the place to which it leads, wherever the
program stands; and neither opening a file nor adding to one removes anything.
So once a file has been opened, bytes can be added to it again and again, and
nothing else changes.

## Main definitions

* `FileTree.Appended` — bytes have been added to a file.
* `Workspace.absolute` — a path read from where the program stands.
* `Workspace.LogsTo` — a path leads to a file to which bytes can be added.

## Main statements

* `FileTree.openFile_eq_ok_iff`, `FileTree.append_eq_ok_iff` — when these
  succeed, and with which tree.
* `Workspace.logsTo_of_openFile` — a file that has been opened takes bytes.
* `Workspace.LogsTo.append` — adding them leaves it so.
-/

namespace TraitDoc

/-! ## Opening and adding -/

namespace FileTree

variable {t u : FileTree} {standing : Standing} {p : FilePath} {place : Place} {bytes : ByteArray}

/-- Bytes have been added at the end of the file at a place, and nothing else has changed. -/
structure Appended (place : Place) (bytes : ByteArray) (before after : FileTree) : Prop where
  there : ∃ content, before.entry? place = some (.file content) ∧
    after.entry? place = some (.file (content ++ bytes))
  elsewhere : ∀ other, other ≠ place → after.entry? other = before.entry? other

theorem Appended.holdsFile (h : Appended place bytes t u) : u.HoldsFile place := by
  obtain ⟨content, -, hafter⟩ := h.there
  exact ⟨content ++ bytes, hafter⟩

theorem Appended.keeps (h : Appended place bytes t u) : t.Keeps u := by
  obtain ⟨content, hbefore, hafter⟩ := h.there
  intro other entry hentry
  by_cases hother : other = place
  · rw [hother, hbefore] at hentry
    refine ⟨.file (content ++ bytes), by rw [hother, hafter], ?_⟩
    rw [← Option.some.inj hentry]
    simp
  · exact ⟨entry, by rw [h.elsewhere other hother, hentry], Iff.rfl⟩

theorem entry?_put_file_below {dir : Place} (hdir : t.entry? dir = some .directory) (name : Text)
    (content : ByteArray) :
    entry? (put (.file content) t (dir ++ [name])) (dir ++ [name]) = some (.file content) := by
  obtain ⟨entries, hentries⟩ := at?_of_entry?_eq_directory hdir
  unfold entry?
  rw [at?_put_self hentries rfl]
  rfl

/-- A file that is put where a file stands is found there. -/
theorem entry?_put_file (h : t.HoldsFile place) (content : ByteArray) :
    entry? (put (.file content) t place) place = some (.file content) := by
  obtain ⟨old, hold⟩ := h
  by_cases hnil : place = []
  · rw [hnil]
    rfl
  · have hsplit := List.dropLast_concat_getLast hnil
    have hthere : t.entry? (place.dropLast ++ [place.getLast hnil]) ≠ none := by
      rw [hsplit, hold]
      simp
    have habove := entry?_eq_directory_of_append (List.cons_ne_nil _ _) hthere
    have hput := entry?_put_file_below habove (place.getLast hnil) content
    rw [hsplit] at hput
    exact hput

theorem append_eq_ok_iff : t.append standing p bytes = .ok u ↔
    ∃ place content, t.target standing p = .ok (some place) ∧
      t.entry? place = some (.file content) ∧ u = put (.file (content ++ bytes)) t place := by
  rw [append, bind_eq_ok_iff]
  constructor
  · rintro ⟨⟨place, found⟩, hplace, hput⟩
    cases found with
    | none => cases hput
    | some content =>
      obtain ⟨htarget, hentry⟩ := filePlace_eq_ok_iff.1 hplace
      exact ⟨place, content, htarget, hentry, (Except.ok.inj hput).symm⟩
  · rintro ⟨place, content, htarget, hentry, rfl⟩
    exact ⟨(place, some content), filePlace_eq_ok_iff.2 ⟨htarget, hentry⟩, rfl⟩

theorem openFile_eq_ok_iff : t.openFile standing p = .ok u ↔
    ∃ place, t.target standing p = .ok (some place) ∧
      (t.HoldsFile place ∧ u = t ∨ t.entry? place = none ∧ u = put (.file .empty) t place) := by
  rw [openFile, bind_eq_ok_iff]
  constructor
  · rintro ⟨⟨place, found⟩, hplace, hopen⟩
    obtain ⟨htarget, hentry⟩ := filePlace_eq_ok_iff.1 hplace
    cases found with
    | none => exact ⟨place, htarget, .inr ⟨hentry, (Except.ok.inj hopen).symm⟩⟩
    | some content => exact ⟨place, htarget, .inl ⟨⟨content, hentry⟩, (Except.ok.inj hopen).symm⟩⟩
  · rintro ⟨place, htarget, ⟨⟨content, hentry⟩, rfl⟩ | ⟨hnone, rfl⟩⟩
    · exact ⟨(place, some content), filePlace_eq_ok_iff.2 ⟨htarget, hentry⟩, rfl⟩
    · exact ⟨(place, none), filePlace_eq_ok_iff.2 ⟨htarget, hnone⟩, rfl⟩

/-- Bytes can be added to a file. -/
theorem exists_append (htarget : t.target standing p = .ok (some place))
    (hfile : t.HoldsFile place) (bytes : ByteArray) :
    ∃ u, t.append standing p bytes = .ok u ∧ Appended place bytes t u := by
  obtain ⟨content, hcontent⟩ := hfile
  have hfree : t.entry? place ≠ some .directory := by
    rw [hcontent]
    simp
  refine ⟨_, append_eq_ok_iff.2 ⟨place, content, htarget, hcontent, rfl⟩, ?_, fun _ hne => ?_⟩
  · exact ⟨content, hcontent, entry?_put_file ⟨content, hcontent⟩ _⟩
  · exact entry?_put_of_ne (fun _ => entry?_file) hfree hne

end FileTree

/-! ## Paths of files that are opened -/

namespace FilePath

theorem foldl_follow_of_not_mem {names : List Text} (h : parentName ∉ names) (place : Place) :
    names.foldl follow place = place ++ names := by
  induction names generalizing place with
  | nil => simp
  | cons name names ih =>
    rw [List.mem_cons, not_or] at h
    rw [List.foldl_cons, follow, if_neg (Ne.symm h.1), ih h.2, List.append_assoc]
    rfl

/-- An absolute path without `..` spells its own names. -/
theorem place?_of_plain {p : FilePath} (habsolute : p.isAbsolute = true)
    (hplain : parentName ∉ p.names) (standing : Standing) : p.place? standing = some p.names := by
  rw [place?_of_isAbsolute habsolute, settle, foldl_follow_of_not_mem hplain]
  rfl

end FilePath

namespace FileTree

variable {t u : FileTree} {standing : Standing} {p : FilePath} {place : Place}

/-- An absolute path without `..` leads to the root, or to a place in a directory that is there. -/
theorem directory_above (habsolute : p.isAbsolute = true) (hplain : FilePath.parentName ∉ p.names)
    (htarget : t.target standing p = .ok (some place)) :
    place = [] ∨ ∃ dir name, place = dir ++ [name] ∧ t.entry? dir = some .directory := by
  obtain ⟨-, first, names, henter, hleads⟩ := target_eq_some_iff.1 htarget
  have hstart : (p.start standing).enter p.names = .ok (some ([], p.names)) := by
    rw [FilePath.start, if_pos habsolute, Standing.enter_at]
  obtain ⟨rfl, rfl⟩ := Prod.mk.inj (Option.some.inj (Except.ok.inj (hstart.symm.trans henter)))
  rcases hleads with ⟨-, rfl⟩ | ⟨front, last, dir, hnames, -, hstep⟩
  · exact .inl rfl
  · obtain ⟨hdir, -, rfl⟩ := step_eq_ok_iff.1 hstep
    have hlast : last ≠ FilePath.parentName := by
      rintro rfl
      exact hplain (by simp [hnames])
    exact .inr ⟨dir, last, by rw [FilePath.follow, if_neg hlast], hdir⟩

/-- A file that has been opened is there, where the path led before and leads still. -/
theorem holdsFile_of_openFile (habsolute : p.isAbsolute = true)
    (hplain : FilePath.parentName ∉ p.names) (h : t.openFile standing p = .ok u) :
    u.target standing p = .ok (some p.names) ∧ u.HoldsFile p.names := by
  obtain ⟨place, htarget, hopened⟩ := openFile_eq_ok_iff.1 h
  have hplace : place = p.names := by
    have hspelled := p.place?_of_plain habsolute hplain standing
    exact Option.some.inj ((place?_of_target htarget).symm.trans hspelled)
  rw [← hplace]
  rcases hopened with ⟨hfile, rfl⟩ | ⟨hnone, rfl⟩
  · exact ⟨htarget, hfile⟩
  · have hthere : entry? (put (.file .empty) t place) place = some (.file .empty) := by
      rcases directory_above habsolute hplain htarget with rfl | ⟨dir, name, rfl, hdir⟩
      · rfl
      · exact entry?_put_file_below hdir name .empty
    have hkeeps : t.Keeps (put (.file .empty) t place) := by
      intro other entry hentry
      have hother : other ≠ place := by
        rintro rfl
        rw [hnone] at hentry
        cases hentry
      have hfree : t.entry? place ≠ some .directory := by
        rw [hnone]
        simp
      exact ⟨entry, by rw [entry?_put_of_ne (fun _ => entry?_file) hfree hother, hentry], Iff.rfl⟩
    exact ⟨hkeeps.target htarget, .empty, hthere⟩

end FileTree

namespace Workspace

variable {w v : Workspace} {p path : FilePath}

/-- A path without `..`, read from where the program stands, with its own spelling of the root. -/
def absolute (w : Workspace) (p : FilePath) : Except FileFault FilePath :=
  if p.isAbsolute then .ok (FilePath.absolute p p)
  else w.place.map fun directory => FilePath.absolute directory p

theorem ask_absolute (w : Workspace) (p : FilePath) :
    w.ask (Host.absolute p) = (w.absolute p, w) := by
  have hplace : w.ask Host.standing = (w.place, w) := rfl
  unfold Host.absolute absolute
  split
  · rfl
  · rw [ask_bind hplace]
    rfl

theorem eq_of_place (h : w.place = .ok p) : p = ⟨.root, w.standing.place⟩ := by
  unfold place at h
  split at h
  · split at h
    · exact (Except.ok.inj h).symm
    · cases h
  · split at h
    · exact (Except.ok.inj h).symm
    · cases h

theorem plain_of_absolute (h : w.absolute p = .ok path) :
    path.isAbsolute = true ∧ FilePath.parentName ∉ path.names := by
  unfold absolute at h
  split at h
  · rename_i habsolute
    rw [← Except.ok.inj h]
    refine ⟨?_, fun hin => FilePath.ne_parentName_of_mem_settle hin rfl⟩
    rw [FilePath.absolute, FilePath.join_of_isAbsolute habsolute]
    exact habsolute
  · cases hplace : w.place with
    | error fault =>
      rw [hplace] at h
      cases h
    | ok directory =>
      rw [hplace] at h
      rw [← Except.ok.inj h]
      refine ⟨?_, fun hin => FilePath.ne_parentName_of_mem_settle hin rfl⟩
      rw [eq_of_place hplace]
      exact FilePath.isAbsolute_join rfl p

/-- A path leads to a file to which lines can be added. -/
structure LogsTo (w : Workspace) (path : FilePath) : Prop where
  null_not_mem : '\x00' ∉ path.toText
  leads : w.tree.target w.standing path = .ok (some path.names)
  holdsFile : w.tree.HoldsFile path.names

theorem LogsTo.withErrors (h : w.LogsTo path) (errors : Text) : (w.withErrors errors).LogsTo path :=
  ⟨h.null_not_mem, h.leads, h.holdsFile⟩

theorem LogsTo.withTree (h : w.LogsTo path) {tree : FileTree} {bytes : ByteArray}
    (hadded : FileTree.Appended path.names bytes w.tree tree) : (w.withTree tree).LogsTo path :=
  ⟨h.null_not_mem, hadded.keeps.target h.leads, hadded.holdsFile⟩

/-- A file that has been opened takes lines. -/
theorem logsTo_of_openFile (hpath : w.absolute p = .ok path)
    (h : w.ask (Host.openFile path) = (.ok (), v)) : v.LogsTo path := by
  obtain ⟨habsolute, hplain⟩ := plain_of_absolute hpath
  have hchange : w.change path FileTree.openFile = (.ok (), v) := h
  unfold change at hchange
  split at hchange
  · rename_i tree hanswer
    obtain ⟨hnull, hopen⟩ := answer_eq_ok_iff.1 hanswer
    obtain ⟨hleads, hfile⟩ := FileTree.holdsFile_of_openFile habsolute hplain hopen
    rw [← (Prod.mk.inj hchange).2]
    exact ⟨hnull, hleads, hfile⟩
  · cases (Prod.mk.inj hchange).1

theorem LogsTo.append (h : w.LogsTo path) (bytes : ByteArray) :
    ∃ tree, w.ask (Host.append path bytes) = (.ok (), w.withTree tree) ∧
      FileTree.Appended path.names bytes w.tree tree := by
  obtain ⟨tree, happend, hadded⟩ := FileTree.exists_append h.leads h.holdsFile bytes
  refine ⟨tree, ?_, hadded⟩
  show w.change path (fun t standing p => t.append standing p bytes) = _
  rw [change, answer_of_not_mem h.null_not_mem, happend]
  rfl

end Workspace

end TraitDoc
