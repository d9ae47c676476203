import TraitDoc.Proofs.RunEnds
/-!
# What failed runs leave

A run renders all files before it writes the first one, and it takes nothing
back. So what a failed run leaves depends on when it failed. In rendering,
nothing has been written. In writing, the trait files before the one at fault are
stored, and that one may be half done: some directories have been made for it, or
all of them, and perhaps its own file has been made, emptied, or written in part.

This is so on every host that has a file tree, `Host.ActsOn`, whatever else there
is to it. How far a write has come when it fails is left open: a disk that fills
up takes some of the bytes, a text for which there are no bytes empties the file
that was there. A workspace is a host that writes all or nothing; `Disk` is one
that runs out of room.

## Main definitions

* `Host.Site`, `Host.ActsOn` — a host with a file tree, on which it acts.
* `TraitFile.HalfStored` — what the attempt to store a trait file can leave.
* `Disk` — a host in memory with little room.

## Main statements

* `Run.tree_of_failed` — the tree that a failed run leaves, on every such host.
* `Run.tree_changed_by_failed` — a failed run may change the tree.
-/

namespace TraitDoc

open FileTree (DirectoriesMade)

/-! ## Hosts with a file tree -/

namespace Host

/-- A file tree, and the place in it where programs stand. -/
structure Site where
  tree : FileTree
  standing : Standing

variable {σ : Type} [Host (StateM σ)]

/--
The host has a file tree, and its operations act on that. To look and to print changes nothing. A
directory is made as in the tree, or nothing changes. A file is written as in the tree; if that
fails, nothing changes, or the file is there afterwards and holds any bytes.
-/
structure ActsOn (site : σ → Site) : Prop where
  kind (p : FilePath) (s : σ) : site (askIn s (Host.kind p)).2 = site s
  read (p : FilePath) (s : σ) : site (askIn s (Host.read p)).2 = site s
  print (text : Text) (s : σ) : site (askIn s (Host.print .errors text)).2 = site s
  makeDirectory (p : FilePath) (s : σ) :
    site (askIn s (Host.makeDirectory p)).2 = site s ∨
    ∃ tree, (site s).tree.makeDirectory (site s).standing p = .ok tree ∧
      site (askIn s (Host.makeDirectory p)).2 = { site s with tree }
  writeText_ok {p : FilePath} {text : Text} {s t : σ}
    (h : askIn s (Host.writeText p text) = (.ok (), t)) :
    ∃ tree, (site s).tree.write (site s).standing p (Text.encode text) = .ok tree ∧
      site t = { site s with tree }
  writeText_error {p : FilePath} {text : Text} {s t : σ} {fault : FileFault}
    (h : askIn s (Host.writeText p text) = (.error fault, t)) :
    site t = site s ∨
    ∃ kept tree, (site s).tree.write (site s).standing p kept = .ok tree ∧
      site t = { site s with tree }

end Host

open Host (Site ActsOn)

/--
The attempt to store a trait file has come to its end or not: directories above it have been made,
and then its file has been left as it was, or made or overwritten with some bytes.
-/
def TraitFile.HalfStored (standing : Standing) (file : TraitFile) (before after : FileTree) : Prop :=
  ∃ made, DirectoriesMade standing file.path.parent before made ∧ before.Grown made ∧
    (after = made ∨ ∃ kept, made.write standing file.path kept = .ok after)

namespace Host.ActsOn

/-! ## Steps of a run -/

section

variable {σ : Type} {site : σ → Site}

/-- The file tree is the same, and so is the place where programs stand. -/
private def SameSite (site : σ → Site) (s t : σ) : Prop := site t = site s

private instance : IsPreorder σ (SameSite site) where
  refl _ := rfl
  trans _ _ _ hfirst hthen := Eq.trans hthen hfirst

/-- Directories have been made at `p` or on the way to it, while programs stand where they stood. -/
private def MadeOnTheWay (site : σ → Site) (p : FilePath) (s t : σ) : Prop :=
  (site t).standing = (site s).standing ∧
    DirectoriesMade (site s).standing p (site s).tree (site t).tree

private instance (p : FilePath) : IsPreorder σ (MadeOnTheWay site p) where
  refl _ := ⟨rfl, .none _⟩
  trans := by
    rintro s t u ⟨hst, hfirst⟩ ⟨htu, hthen⟩
    rw [hst] at hthen
    exact ⟨htu.trans hst, hfirst.trans hthen⟩

private theorem MadeOnTheWay.of_eq {p : FilePath} {s t : σ} (h : site t = site s) :
    MadeOnTheWay site p s t := by
  unfold MadeOnTheWay
  rw [h]
  exact ⟨rfl, .none _⟩

end

variable {σ : Type} [Host (StateM σ)] {site : σ → Site} (hsite : ActsOn site) {j : Journal}
  (hj : j.WritesNoFile)

include hsite

private theorem leads_makeDirectories (p : FilePath) :
    Leads (MadeOnTheWay site p) (Host.makeDirectories p) := by
  refine Leads.makeDirectories (fun q s => .of_eq (hsite.kind q s)) fun names hnames s => ?_
  rcases hsite.makeDirectory ⟨p.anchor, names⟩ s with hsame | ⟨tree, htree, hmade⟩
  · exact .of_eq hsame
  · unfold MadeOnTheWay
    rw [hmade]
    exact ⟨rfl, .more hnames htree (.none tree)⟩

include hj

/-- A message is told and changes no file, and what follows runs after it. -/
private theorem tell_bind (s : σ) (level : Level) (message : Text) :
    ∃ t, site t = site s ∧ ∀ {β : Type} (f : Unit → ExceptT Failure (StateM σ) β),
      runIn s (Run.tell j level message >>= f) = runIn t (f ()) := by
  have hsame : Leads (SameSite site) (j.note Run.journalName level message) :=
    Leads.note hj (fun text s => hsite.print text s) _ _ _
  refine ⟨_, hsame s, fun f => ?_⟩
  rw [runIn_bind, Run.tell, runIn_lift]

/-- Rendering changes no file. -/
private theorem makeTraits_same (s : Settings) (names : List Text) (t : σ) :
    site (runIn t (Run.makeTraits s j names)).2 = site t := by
  have hleads : Leads (SameSite site) (Run.makeTraits s j names).run :=
    Leads.makeTraits hj (fun text s => hsite.print text s) (fun p s => hsite.read p s) s names
  exact hleads t

/-- A trait file is stored, or half stored where that fails. -/
private theorem writeTrait_cases (s : σ) (file : TraitFile) :
    (∃ t, runIn s (Run.writeTrait j file) = (.ok (), t) ∧ (site t).standing = (site s).standing ∧
      file.Stored (site s).standing (site s).tree (site t).tree) ∨
    ∃ fault t, runIn s (Run.writeTrait j file) = (.error (.file fault), t) ∧
      file.HalfStored (site s).standing (site s).tree (site t).tree := by
  obtain ⟨hstanding, hmade⟩ := leads_makeDirectories hsite file.path.parent s
  rcases hmake : askIn s (Host.makeDirectories file.path.parent) with ⟨fault | ⟨⟩, made⟩
  · rw [hmake] at hmade
    refine .inr ⟨fault, made, ?_, (site made).tree, hmade, hmade.grown, .inl rfl⟩
    rw [Run.writeTrait, runIn_bind, runIn_fromFile, hmake]
    rfl
  · rw [hmake] at hstanding hmade
    have hrun : runIn s (Run.writeTrait j file) =
        runIn made (fromFile (Host.writeText file.path file.contents) >>= fun _ =>
          Run.tell j .debug ("Wrote ".toList ++ file.path.toText)) := by
      rw [Run.writeTrait, runIn_bind, runIn_fromFile, hmake]
      rfl
    rw [hrun, runIn_bind, runIn_fromFile]
    rcases hwrite : askIn made (Host.writeText file.path file.contents) with ⟨fault | ⟨⟩, t⟩
    · refine .inr ⟨fault, t, rfl, (site made).tree, hmade, hmade.grown, ?_⟩
      rcases hsite.writeText_error hwrite with hsame | ⟨kept, tree, htree, hthere⟩
      · exact .inl (congrArg Site.tree hsame)
      · rw [hthere, ← hstanding]
        exact .inr ⟨kept, htree⟩
    · obtain ⟨tree, htree, hthere⟩ := hsite.writeText_ok hwrite
      obtain ⟨told, hsame, htell⟩ := tell_bind hsite hj t .debug
        ("Wrote ".toList ++ file.path.toText)
      refine .inl ⟨told, htell Pure.pure, ?_, (site made).tree, hmade, ?_⟩
      · rw [hsame, hthere]
        exact hstanding
      · rw [hsame, hthere, ← hstanding]
        exact htree

/-- Trait files are stored one after the other, up to one that is half stored where that fails. -/
private theorem writeTraits_cases (files : List TraitFile) (s : σ) :
    (∃ t, runIn s (Run.writeTraits j files) = (.ok (), t)) ∨
    ∃ done file rest stored fault t, files = done ++ file :: rest ∧
      runIn s (Run.writeTraits j files) = (.error (.file fault), t) ∧
      StoredAll (site s).standing (site s).tree done stored ∧
      file.HalfStored (site s).standing stored (site t).tree := by
  induction files generalizing s with
  | nil => exact .inl ⟨s, rfl⟩
  | cons file files ih =>
    rw [Run.writeTraits, runIn_bind]
    rcases writeTrait_cases hsite hj s file with
      ⟨t, hrun, hstanding, hstored⟩ | ⟨fault, t, hrun, hhalf⟩
    · rw [hrun]
      rcases ih t with ⟨u, hrest⟩ | ⟨done, next, rest, stored, fault, u, hfiles, hrest, hdone, hhalf⟩
      · exact .inl ⟨u, hrest⟩
      · rw [hstanding] at hdone hhalf
        exact .inr ⟨file :: done, next, rest, stored, fault, u, by rw [hfiles]; rfl, hrest,
          .cons hstored hdone, hhalf⟩
    · rw [hrun]
      exact .inr ⟨[], file, files, (site s).tree, fault, t, rfl, rfl, .nil _, hhalf⟩

end Host.ActsOn

/-! ## Whole runs -/

namespace Run

/--
**Whatever the host is, a run that fails in rendering leaves the tree as it was.
A run that fails later is no dry run and has rendered all files. It has stored
those before the one at which it fails; that one may be half stored, and nothing
has been done for those behind it.**
-/
theorem tree_of_failed {σ : Type} [Host (StateM σ)] {site : σ → Site} (hsite : ActsOn site)
    {s : Settings} {j : Journal} (hj : j.WritesNoFile) {dry : Bool} {before after : σ}
    {failure : Failure} (h : runIn before (perform s j dry) = (.error failure, after)) :
    ((runIn before (perform s j true)).1 = .error failure ∧
      (site after).tree = (site before).tree) ∨
    dry = false ∧ ∃ done file rest stored fault,
      (runIn before (perform s j true)).1 = .ok (done ++ file :: rest) ∧
      failure = .file fault ∧
      StoredAll (site before).standing (site before).tree done stored ∧
      file.HalfStored (site before).standing stored (site after).tree := by
  unfold perform at h ⊢
  obtain ⟨told, hsame, htell⟩ := hsite.tell_bind hj before .info
    ("Porting ".toList ++ count (sorted s.filenames).length ++ " tag files from ".toList ++
      s.sourceDir.toText ++ " to ".toList ++ s.targetDir.toText)
  rw [htell] at h ⊢
  have hrendered := hsite.makeTraits_same hj s (sorted s.filenames) told
  rw [runIn_bind] at h ⊢
  rcases hmake : runIn told (makeTraits s j (sorted s.filenames)) with ⟨other | files, rendered⟩
  · rw [hmake] at h hrendered
    obtain ⟨hother, rfl⟩ := Prod.mk.inj h
    exact .inl ⟨hother, congrArg Site.tree (hrendered.trans hsame)⟩
  · rw [hmake] at h hrendered
    have hafter : site rendered = site before := hrendered.trans hsame
    obtain ⟨last, -, hlast⟩ := hsite.tell_bind hj rendered .info
      ("Dry-run completed; ".toList ++ count files.length ++ " files not written".toList)
    dsimp only at h ⊢
    rw [if_pos rfl, hlast]
    cases dry with
    | true =>
      -- nothing is left that could fail
      rw [if_pos rfl, hlast] at h
      cases (Prod.mk.inj h).1
    | false =>
      rw [if_neg Bool.false_ne_true, runIn_bind] at h
      rcases hsite.writeTraits_cases hj files rendered with
        ⟨t, hwrite⟩ | ⟨done, file, rest, stored, fault, t, hfiles, hwrite, hdone, hhalf⟩
      · rw [hwrite] at h
        obtain ⟨told', -, htell'⟩ := hsite.tell_bind hj t .info ("Wrote ".toList ++
          count files.length ++ " Scala files under ".toList ++ s.targetDir.toText)
        dsimp only at h
        rw [htell'] at h
        cases (Prod.mk.inj h).1
      · rw [hwrite] at h
        obtain ⟨hfailure, rfl⟩ := Prod.mk.inj h
        rw [hafter] at hdone hhalf
        exact .inr ⟨rfl, done, file, rest, stored, fault, congrArg Except.ok hfiles,
          (Except.error.inj hfailure).symm, hdone, hhalf⟩

end Run

/-! ## A disk that runs out of room -/

namespace Workspace

/-- The tree of a workspace, and the place where programs stand. -/
def site (w : Workspace) : Site := ⟨w.tree, w.standing⟩

/-- A workspace acts on its tree, and writes all of a file or nothing. -/
theorem actsOn : ActsOn site where
  kind _ _ := rfl
  read _ _ := rfl
  print _ _ := rfl
  makeDirectory p w := by
    have hask : askIn w (Host.makeDirectory p) = w.change p FileTree.makeDirectory := rfl
    rw [hask]
    rcases change_cases w p FileTree.makeDirectory with ⟨tree, htree, hchange⟩ | ⟨fault, hchange⟩
    · rw [hchange]
      exact .inr ⟨tree, htree, rfl⟩
    · rw [hchange]
      exact .inl rfl
  writeText_ok {p text w v} h := by
    rcases change_cases w p (fun t standing p => t.write standing p (Text.encode text)) with
      ⟨tree, htree, hchange⟩ | ⟨fault, hchange⟩
    · obtain ⟨-, rfl⟩ := Prod.mk.inj (hchange.symm.trans h)
      exact ⟨tree, htree, rfl⟩
    · cases (Prod.mk.inj (hchange.symm.trans h)).1
  writeText_error {p text w v fault} h := by
    rcases change_cases w p (fun t standing p => t.write standing p (Text.encode text)) with
      ⟨tree, htree, hchange⟩ | ⟨other, hchange⟩
    · cases (Prod.mk.inj (hchange.symm.trans h)).1
    · obtain ⟨-, rfl⟩ := Prod.mk.inj (hchange.symm.trans h)
      exact .inl rfl

end Workspace

/-- A host in memory that has room for so many bytes of what is written, and never gets any back. -/
structure Disk where
  workspace : Workspace
  room : Nat

namespace Disk

/-- The disk with another workspace on it. -/
def withWorkspace (d : Disk) (workspace : Workspace) : Disk := { d with workspace }

/-- What the workspace on a disk does. -/
def lift {α : Type} (x : StateM Workspace α) : StateM Disk α := fun d =>
  ((d.workspace.ask x).1, d.withWorkspace (d.workspace.ask x).2)

/-- The fault where there is no room left. -/
def full (p : FilePath) : FileFault :=
  .refused (.other 28 "No space left on device".toList) (some p)

/-- The bytes for which there is room. -/
def kept (d : Disk) (bytes : ByteArray) : ByteArray :=
  if bytes.size ≤ d.room then bytes else bytes.extract 0 d.room

/-- Writes bytes into a file, as far as there is room for them. -/
def write (p : FilePath) (bytes : ByteArray) : StateM Disk (Except FileFault Unit) := fun d =>
  match d.workspace.ask (Host.write p (d.kept bytes)) with
  | (.error fault, workspace) => (.error fault, d.withWorkspace workspace)
  | (.ok (), workspace) =>
    (if bytes.size ≤ d.room then .ok () else .error (full p),
      ⟨workspace, d.room - (d.kept bytes).size⟩)

instance : Host (StateM Disk) where
  standing := lift Host.standing
  homes := lift Host.homes
  resolve p := lift (Host.resolve p)
  kind p := lift (Host.kind p)
  read p := lift (Host.read p)
  writeText p text := write p (Text.encode text)
  openFile p := lift (Host.openFile p)
  append p content := lift (Host.append p content)
  makeDirectory p := lift (Host.makeDirectory p)
  now := lift Host.now
  print stream text := lift (Host.print stream text)

/-- The tree on a disk, and the place where programs stand. -/
def site (d : Disk) : Site := d.workspace.site

/-- The file holds what is kept of the bytes, or nothing has changed. -/
private theorem write_cases (d : Disk) (p : FilePath) (bytes : ByteArray) :
    (∃ tree, d.workspace.tree.write d.workspace.standing p (d.kept bytes) = .ok tree ∧
      askIn d (write p bytes) = (if bytes.size ≤ d.room then .ok () else .error (full p),
        ⟨d.workspace.withTree tree, d.room - (d.kept bytes).size⟩)) ∨
    ∃ fault, askIn d (write p bytes) = (.error fault, d) := by
  have hwrite : d.workspace.ask (Host.write p (d.kept bytes)) =
    d.workspace.change p fun t standing p => t.write standing p (d.kept bytes) := rfl
  unfold askIn write
  rw [hwrite]
  rcases d.workspace.change_cases p fun t standing p => t.write standing p (d.kept bytes) with
    ⟨tree, htree, hchange⟩ | ⟨fault, hchange⟩
  · rw [hchange]
    exact .inl ⟨tree, htree, rfl⟩
  · rw [hchange]
    exact .inr ⟨fault, rfl⟩

/-- A disk acts on its tree, and may write a part of a file. -/
theorem actsOn : ActsOn site where
  kind _ _ := rfl
  read _ _ := rfl
  print _ _ := rfl
  makeDirectory p d := Workspace.actsOn.makeDirectory p d.workspace
  writeText_ok {p text d e} h := by
    rcases d.write_cases p (Text.encode text) with ⟨tree, htree, hwrite⟩ | ⟨fault, hwrite⟩
    · obtain ⟨hanswer, rfl⟩ := Prod.mk.inj (hwrite.symm.trans h)
      split at hanswer
      · rename_i hroom
        rw [kept, if_pos hroom] at htree
        exact ⟨tree, htree, rfl⟩
      · cases hanswer
    · cases (Prod.mk.inj (hwrite.symm.trans h)).1
  writeText_error {p text d e fault} h := by
    rcases d.write_cases p (Text.encode text) with ⟨tree, htree, hwrite⟩ | ⟨other, hwrite⟩
    · obtain ⟨-, rfl⟩ := Prod.mk.inj (hwrite.symm.trans h)
      exact .inr ⟨_, tree, htree, rfl⟩
    · obtain ⟨-, rfl⟩ := Prod.mk.inj (hwrite.symm.trans h)
      exact .inl rfl

end Disk

namespace Run

/-- A disk with two sources and with room for one trait file and a part of the other. -/
def smallDisk : Disk where
  workspace := blockedWorkspace.withTree (blockedWorkspace.tree.erase ["out".toList])
  room := 100

/-- What there is room for of the second trait file. -/
def keptOnDisk : Text := "/** B. */\n trait B extends java.lang.ann".toList

/-- The run stores the first trait file, and of the second one what there is room for. -/
private theorem run_smallDisk : ∃ failure after,
    runIn smallDisk (perform blockedSettings Journal.fresh false) = (.error failure, after) ∧
      (after.site.tree.read after.site.standing (.ofText "out/B.scala".toList)).toOption.bind
        Text.decode? = some keptOnDisk := by
  have hends : (runIn smallDisk
        (perform blockedSettings Journal.fresh false)).1.toOption.isNone = true ∧
      ((runIn smallDisk (perform blockedSettings Journal.fresh false)).2.site.tree.read
        (runIn smallDisk (perform blockedSettings Journal.fresh false)).2.site.standing
        (.ofText "out/B.scala".toList)).toOption.bind Text.decode? = some keptOnDisk := by
    unfold perform
    rw [sorted_blockedSettings]
    decide +kernel
  generalize runIn smallDisk (perform blockedSettings Journal.fresh false) = ended at *
  obtain ⟨hfailed, hthere⟩ := hends
  rcases ended with ⟨failure | files, after⟩
  · exact ⟨failure, after, rfl, hthere⟩
  · cases hfailed

/-- The tree that this run leaves is one that a failed run can leave. -/
theorem tree_of_failed_smallDisk :
    ActsOn Disk.site ∧ Journal.fresh.WritesNoFile ∧ ∃ failure after,
      runIn smallDisk (perform blockedSettings Journal.fresh false) = (.error failure, after) ∧
      (((runIn smallDisk (perform blockedSettings Journal.fresh true)).1 = .error failure ∧
          after.site.tree = smallDisk.site.tree) ∨
        false = false ∧ ∃ done file rest stored fault,
          (runIn smallDisk (perform blockedSettings Journal.fresh true)).1 =
            .ok (done ++ file :: rest) ∧
          failure = .file fault ∧
          StoredAll smallDisk.site.standing smallDisk.site.tree done stored ∧
          file.HalfStored smallDisk.site.standing stored after.site.tree) ∧
      (after.site.tree.read after.site.standing (.ofText "out/B.scala".toList)).toOption.bind
        Text.decode? = some keptOnDisk := by
  have hj : Journal.fresh.WritesNoFile := fun path hin => by cases hin
  obtain ⟨failure, after, hrun, hthere⟩ := run_smallDisk
  exact ⟨Disk.actsOn, hj, failure, after, hrun, tree_of_failed Disk.actsOn hj hrun, hthere⟩

/-- A failed run may change the tree. -/
theorem tree_changed_by_failed :
    ¬ ∀ (s : Settings) (j : Journal) (dry : Bool) (w w' : Workspace) (failure : Failure),
      j.WritesNoFile → w.run (perform s j dry) = (.error failure, w') → w'.tree = w.tree := by
  intro hsame
  obtain ⟨failure, w', hrun, hthere⟩ := run_blocked
  have htree : w'.tree = blockedWorkspace.tree :=
    hsame _ _ _ _ _ _ (fun path hin => by cases hin) hrun
  rw [htree] at hthere
  exact absurd hthere (by decide)

end Run

end TraitDoc
