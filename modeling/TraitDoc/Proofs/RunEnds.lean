import TraitDoc.Proofs.Writing
/-!
# How runs end

A run ends in one of four ways: a file cannot be rendered; all are rendered and
the run is dry; all are stored; or the run stops at a file that cannot be stored.
`Run.Ends` lists them, each with the answer of the run and the tree that it
leaves. In the first two the tree is as it was.

In the last one it is not: what has been stored before the failure stays, and
nothing is taken back. So a run is all or nothing as far as rendering goes, and
not beyond.

All this is about workspaces, where the contents of a file are written as a whole
or not at all. A host that writes a part of them and fails leaves more behind;
`TraitDoc.Proofs.FailedRuns` is about such hosts, too.

## Main definitions

* `Run.Ends` — the ways in which a run can end.

## Main statements

* `Run.perform_ends` — every run ends in one of these ways.
* `Run.perform_follows_dry` — what a dry run says about the run.
-/

namespace TraitDoc.Run

open FileTree (DirectoriesMade)

/-- The ways in which a run in a workspace can end, by its answer and the tree that it leaves. -/
inductive Ends (w : Workspace) (s : Settings) :
    (dry : Bool) → Except Failure (List TraitFile) → FileTree → Prop
  | unrendered {dry : Bool} {failure : Failure}
    (hrender : w.renderAll s (sorted s.filenames) = .error failure) :
    Ends w s dry (.error failure) w.tree
  | rendered {files : List TraitFile}
    (hrender : w.renderAll s (sorted s.filenames) = .ok files) : Ends w s true (.ok files) w.tree
  | stored {files : List TraitFile} {tree : FileTree}
    (hrender : w.renderAll s (sorted s.filenames) = .ok files)
    (hstored : StoredAll w.standing w.tree files tree) : Ends w s false (.ok files) tree
  | stopped {done rest : List TraitFile} {file : TraitFile} {stored tree : FileTree}
    {fault : FileFault} {errors : Text}
    (hrender : w.renderAll s (sorted s.filenames) = .ok (done ++ file :: rest))
    (hstored : StoredAll w.standing w.tree done stored)
    (hrefuses : ((w.withTree stored).withErrors errors).Refuses file fault tree) :
    Ends w s false (.error (.file fault)) tree

variable {j : Journal}

/-- Every run ends in one of these ways, and leaves all but the tree and the messages as it was. -/
theorem perform_ends (hj : j.WritesNoFile) (w : Workspace) (s : Settings) (dry : Bool) :
    ∃ answer tree errors, Ends w s dry answer tree ∧
      w.run (perform s j dry) = (answer, (w.withTree tree).withErrors errors) := by
  unfold perform
  obtain ⟨errors, htell⟩ := Workspace.run_tell_bind hj w .info
    ("Porting ".toList ++ count (sorted s.filenames).length ++ " tag files from ".toList ++
      s.sourceDir.toText ++ " to ".toList ++ s.targetDir.toText)
  rw [htell]
  obtain ⟨errors', hmake⟩ :=
    Workspace.run_makeTraits hj s (sorted s.filenames) (w.withErrors errors)
  rw [Workspace.run_bind, hmake, Workspace.renderAll_withErrors, Workspace.withErrors_withErrors]
  cases hrender : w.renderAll s (sorted s.filenames) with
  | error failure => exact ⟨_, w.tree, errors', .unrendered hrender, rfl⟩
  | ok files =>
    dsimp only
    cases dry with
    | true =>
      obtain ⟨printed, hlast⟩ := Workspace.run_tell_bind hj (w.withErrors errors') .info
        ("Dry-run completed; ".toList ++ count files.length ++ " files not written".toList)
      exact ⟨.ok files, w.tree, printed, .rendered hrender, hlast _⟩
    | false =>
      rw [if_neg Bool.false_ne_true, Workspace.run_bind]
      rcases Workspace.run_writeTraits hj files (w.withErrors errors') with
        ⟨tree, printed, hstored, hwrite⟩ |
          ⟨done, file, rest, stored, fault, tree, printed, hfiles, hstored, hrefuses, hwrite⟩
      · rw [hwrite]
        obtain ⟨more, hlast⟩ := Workspace.run_tell_bind hj ((w.withTree tree).withErrors printed)
          .info ("Wrote ".toList ++ count files.length ++ " Scala files under ".toList ++
            s.targetDir.toText)
        exact ⟨.ok files, tree, more, .stored hrender hstored, hlast _⟩
      · rw [hwrite]
        rw [hfiles] at hrender
        exact ⟨_, tree, printed, .stopped hrender hstored hrefuses, rfl⟩

namespace Ends

variable {w : Workspace} {s : Settings} {dry : Bool} {answer : Except Failure (List TraitFile)}
  {tree : FileTree}

/-- Where rendering fails, the run fails as it does. -/
theorem of_unrendered {failure : Failure} (h : Ends w s dry answer tree)
    (hfailure : w.renderAll s (sorted s.filenames) = .error failure) :
    answer = .error failure ∧ tree = w.tree := by
  cases h with
  | unrendered hrender =>
    rw [hrender] at hfailure
    exact ⟨hfailure, rfl⟩
  | rendered hrender =>
    rw [hrender] at hfailure
    cases hfailure
  | stored hrender hstored =>
    rw [hrender] at hfailure
    cases hfailure
  | stopped hrender hstored hrefuses =>
    rw [hrender] at hfailure
    cases hfailure

/-- Where all is rendered, a dry run answers that. -/
theorem of_rendered_of_dry {files : List TraitFile} (h : Ends w s true answer tree)
    (hfiles : w.renderAll s (sorted s.filenames) = .ok files) :
    answer = .ok files ∧ tree = w.tree := by
  cases h with
  | unrendered hrender =>
    rw [hrender] at hfiles
    cases hfiles
  | rendered hrender =>
    rw [hrender] at hfiles
    exact ⟨hfiles, rfl⟩

/-- Where all is rendered, a run answers that and has stored all, or is stopped at one of the files. -/
theorem of_rendered {files : List TraitFile} (h : Ends w s false answer tree)
    (hfiles : w.renderAll s (sorted s.filenames) = .ok files) :
    answer = .ok files ∧ StoredAll w.standing w.tree files tree ∨
    ∃ done file rest stored fault errors, files = done ++ file :: rest ∧
      answer = .error (.file fault) ∧ StoredAll w.standing w.tree done stored ∧
      ((w.withTree stored).withErrors errors).Refuses file fault tree := by
  cases h with
  | unrendered hrender =>
    rw [hrender] at hfiles
    cases hfiles
  | stored hrender hstored =>
    rw [hrender] at hfiles
    rw [← Except.ok.inj hfiles]
    exact .inl ⟨rfl, hstored⟩
  | stopped hrender hstored hrefuses =>
    rw [hrender] at hfiles
    rw [← Except.ok.inj hfiles]
    exact .inr ⟨_, _, _, _, _, _, rfl, rfl, hstored, hrefuses⟩

end Ends

/-! ## A run that is stopped -/

/-- Two sources, and a directory where the second trait file should go. -/
def blockedWorkspace : Workspace where
  tree := .directory [
    ("src".toList, .directory [
      ("A.java".toList, .file (Text.encode "/** A. */\npublic @interface A \x7b\n\x7d\n".toList)),
      ("B.java".toList, .file (Text.encode "/** B. */\npublic @interface B \x7b\n\x7d\n".toList))]),
    ("out".toList, .directory [("B.scala".toList, .directory [])])]
  standing := .at []
  homes := fun _ => none
  now := []

/-- The settings of the project with these two sources. -/
def blockedSettings : Settings :=
  { Settings.defaults (.ofText ['.']) with
    sourceDir := .ofText "src".toList
    targetDir := .ofText "out".toList
    filenames := ["A.java".toList, "B.java".toList] }

theorem sorted_blockedSettings :
    sorted blockedSettings.filenames = blockedSettings.filenames :=
  List.mergeSort_of_pairwise (by decide)

/-- The run stores the first trait file before it fails at the second one. -/
theorem run_blocked : ∃ failure w',
    blockedWorkspace.run (perform blockedSettings Journal.fresh false) = (.error failure, w') ∧
      (w'.tree.at? ["out".toList, "A.scala".toList]).isSome = true := by
  have hfailed : (blockedWorkspace.run
      (perform blockedSettings Journal.fresh false)).1.toOption.isNone = true := by
    unfold perform
    rw [sorted_blockedSettings]
    decide +kernel
  have hthere : ((blockedWorkspace.run (perform blockedSettings Journal.fresh false)).2.tree.at?
      ["out".toList, "A.scala".toList]).isSome = true := by
    unfold perform
    rw [sorted_blockedSettings]
    decide +kernel
  generalize blockedWorkspace.run (perform blockedSettings Journal.fresh false) = ended at *
  rcases ended with ⟨failure | files, w'⟩
  · exact ⟨failure, w', rfl, hthere⟩
  · cases hfailed

/-! ## Dry runs -/

/--
**A dry run leaves the tree as it was. Where it fails, a run from the same tree
fails in the same way and leaves the tree as it was, too. Where it answers, the
run gives the same answer, unless the host refuses to store one of the files.**
-/
theorem perform_follows_dry {s : Settings} {j k : Journal} {w v : Workspace} (hj : j.WritesNoFile)
    (hk : k.WritesNoFile) (htree : v.tree = w.tree) (hstanding : v.standing = w.standing) :
    (w.run (perform s j true)).2.tree = w.tree ∧
    (∀ failure, (w.run (perform s j true)).1 = .error failure →
      (v.run (perform s k false)).1 = .error failure ∧
        (v.run (perform s k false)).2.tree = v.tree) ∧
    ∀ files, (w.run (perform s j true)).1 = .ok files →
      (v.run (perform s k false)).1 = .ok files ∨
      ∃ done file rest stored fault errors, files = done ++ file :: rest ∧
        (v.run (perform s k false)).1 = .error (.file fault) ∧
        StoredAll v.standing v.tree done stored ∧
        ((v.withTree stored).withErrors errors).Refuses file fault
          (v.run (perform s k false)).2.tree := by
  have hsame := Workspace.renderAll_congr htree hstanding s (sorted s.filenames)
  obtain ⟨dry, dryTree, _, hdry, hdryRun⟩ := perform_ends hj w s true
  obtain ⟨answer, tree, _, hends, hrun⟩ := perform_ends hk v s false
  rw [hdryRun, hrun]
  dsimp only [Workspace.withTree, Workspace.withErrors]
  cases hrender : w.renderAll s (sorted s.filenames) with
  | error failure =>
    obtain ⟨rfl, rfl⟩ := hdry.of_unrendered hrender
    obtain ⟨rfl, rfl⟩ := hends.of_unrendered (hsame.trans hrender)
    exact ⟨rfl, fun other hother => ⟨hother, rfl⟩, fun files hfiles => nomatch hfiles⟩
  | ok files =>
    obtain ⟨rfl, rfl⟩ := hdry.of_rendered_of_dry hrender
    refine ⟨rfl, fun failure hfailure => (nomatch hfailure), fun others hothers => ?_⟩
    obtain rfl := Except.ok.inj hothers
    rcases hends.of_rendered (hsame.trans hrender) with ⟨rfl, -⟩ | hstopped
    · exact .inl rfl
    · exact .inr hstopped

/-- The dry run answers with both trait files, and the run is stopped at one of them. -/
theorem perform_follows_dry_blocked :
    Journal.fresh.WritesNoFile ∧
    ∃ files, (blockedWorkspace.run (perform blockedSettings Journal.fresh true)).1 = .ok files ∧
      files.map (·.filename) = ["A.java".toList, "B.java".toList] ∧
      ∃ done file rest stored fault errors, files = done ++ file :: rest ∧
        (blockedWorkspace.run (perform blockedSettings Journal.fresh false)).1 =
          .error (.file fault) ∧
        StoredAll blockedWorkspace.standing blockedWorkspace.tree done stored ∧
        ((blockedWorkspace.withTree stored).withErrors errors).Refuses file fault
          (blockedWorkspace.run (perform blockedSettings Journal.fresh false)).2.tree := by
  have hj : Journal.fresh.WritesNoFile := fun path hin => by cases hin
  have hnames : (blockedWorkspace.run (perform blockedSettings Journal.fresh true)).1.toOption.map
      (·.map (·.filename)) = some ["A.java".toList, "B.java".toList] := by
    unfold perform
    rw [sorted_blockedSettings]
    decide +kernel
  obtain ⟨failure, w', hrun, -⟩ := run_blocked
  have hagree := (perform_follows_dry (s := blockedSettings) (w := blockedWorkspace)
    (v := blockedWorkspace) hj hj rfl rfl).2.2
  cases hdry : (blockedWorkspace.run (perform blockedSettings Journal.fresh true)).1 with
  | error other =>
    rw [hdry] at hnames
    cases hnames
  | ok files =>
    rw [hdry] at hnames
    refine ⟨hj, files, rfl, Option.some.inj hnames, ?_⟩
    rcases hagree files hdry with hsame | hstopped
    · rw [hrun] at hsame
      cases hsame
    · exact hstopped

end TraitDoc.Run
