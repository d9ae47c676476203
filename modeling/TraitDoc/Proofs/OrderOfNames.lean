import TraitDoc.Proofs.Footprint
/-!
# The order in which names are given

A run sorts the names of its files before it does anything else, and the order
of texts has no ties except between equal ones. Beyond that it never looks at the
list of names. So settings whose names are permuted lead to the same run, step
by step: on every host, with every journal, dry or not.

Rendering takes the names in their order and stops at the first file that fails.
Each file is rendered in its turn, which is a matter of the journal: where that
is a file, the host changes from one turn to the next. Where it is none, the
turns do not differ, and the failure is that of the least name whose file cannot
be rendered, whatever becomes of the others.

## Main definitions

* `Run.FailsAt` — of files that are rendered in turn, the first one that fails.
* `Run.LeastFailing` — the least name of a file that cannot be rendered.

## Main statements

* `Run.perform_of_perm` — permuted names lead to the same run, on every host.
* `Run.run_makeTraits_eq_error_iff` — where rendering stops.
* `Run.perform_reordered` — permuted names in a workspace, and what a run fails for.
-/

namespace TraitDoc

/-- A list is computed item by item, and fails as the first item that fails. -/
theorem mapM_eq_error_iff {ε α β : Type} {f : α → Except ε β} {e : ε} {items : List α} :
    items.mapM f = .error e ↔ ∃ before a behind, items = before ++ a :: behind ∧
      f a = .error e ∧ ∀ b ∈ before, ∃ made, f b = .ok made := by
  induction items with
  | nil => simp [pure, Except.pure]
  | cons first rest ih =>
    rw [List.mapM_cons]
    constructor
    · intro h
      cases hfirst : f first with
      | error other =>
        rw [hfirst] at h
        refine ⟨[], first, rest, rfl, ?_, by simp⟩
        rw [hfirst, Except.error.inj h]
      | ok made =>
        rw [hfirst] at h
        have hrest : rest.mapM f = .error e := by
          cases hmap : rest.mapM f with
          | error other =>
            rw [hmap] at h
            rw [Except.error.inj h]
          | ok others =>
            rw [hmap] at h
            cases h
        obtain ⟨before, a, behind, heq, hfails, hbefore⟩ := ih.1 hrest
        refine ⟨first :: before, a, behind, by rw [heq, List.cons_append], hfails, ?_⟩
        intro b hb
        rcases List.mem_cons.1 hb with rfl | hb
        · exact ⟨made, hfirst⟩
        · exact hbefore b hb
    · rintro ⟨before, a, behind, heq, hfails, hbefore⟩
      cases before with
      | nil =>
        obtain ⟨rfl, -⟩ := List.cons_eq_cons.1 heq
        rw [hfails]
        rfl
      | cons b before =>
        obtain ⟨rfl, hrest⟩ := List.cons_eq_cons.1 heq
        obtain ⟨made, hmade⟩ := hbefore first List.mem_cons_self
        have hstops := ih.2 ⟨before, a, behind, hrest, hfails,
          fun b hb => hbefore b (List.mem_cons_of_mem _ hb)⟩
        rw [hmade, hstops]
        rfl

namespace Run

/-! ## Permuted names -/

/-- Permuted names have the same order. -/
theorem sorted_eq_of_perm {names given : List Text} (h : given.Perm names) :
    sorted given = sorted names :=
  sorted_eq ((sorted_perm names).trans h.symm) (pairwise_sorted names)

section

variable {m : Type → Type} [Monad m] [Host m]

/-- Rendering does not look at the list of names in the settings. -/
theorem makeTraits_filenames (s : Settings) (given : List Text) (j : Journal)
    (names : List Text) :
    makeTraits (m := m) { s with filenames := given } j names = makeTraits s j names := by
  induction names with
  | nil => rfl
  | cons filename rest ih =>
    unfold makeTraits
    rw [ih]
    rfl

/-- Permuted names lead to the same run, on every host. -/
theorem perform_of_perm {s : Settings} {given : List Text} (h : given.Perm s.filenames)
    (j : Journal) (dry : Bool) :
    perform (m := m) { s with filenames := given } j dry = perform s j dry := by
  unfold perform
  rw [sorted_eq_of_perm h]
  dsimp only
  rw [makeTraits_filenames]

end

/-! ## Where rendering stops -/

/-- Of the files of these names, rendered in turn, that of `name` is the first one that fails. -/
inductive FailsAt (s : Settings) (j : Journal) (name : Text) (failure : Failure) :
    Workspace → List Text → Workspace → Prop
  | here {w w' : Workspace} {rest : List Text}
    (hfails : w.run (makeTrait s j name) = (.error failure, w')) :
    FailsAt s j name failure w (name :: rest) w'
  | later {w between w' : Workspace} {first : Text} {rest : List Text} {file : TraitFile}
    (hfirst : w.run (makeTrait s j first) = (.ok file, between))
    (hrest : FailsAt s j name failure between rest w') :
    FailsAt s j name failure w (first :: rest) w'

variable {s t : Settings} {j : Journal} {name : Text} {failure : Failure}

/-- What is returned of a result does not matter where there is none. -/
theorem run_return_eq_error_iff {α β : Type} {w w' : Workspace}
    {x : ExceptT Failure (StateM Workspace) α} {f : α → β} :
    w.run (do return f (← x)) = (.error failure, w') ↔ w.run x = (.error failure, w') := by
  rw [Workspace.run_bind]
  cases w.run x with
  | mk answer after =>
    cases answer with
    | error other => simp only [Prod.mk.injEq, Except.error.injEq]
    | ok a =>
      constructor
      · intro h
        cases (Prod.mk.inj h).1
      · intro h
        cases (Prod.mk.inj h).1

/-- Rendering fails where one of the files is the first one that fails in its turn. -/
theorem run_makeTraits_eq_error_iff {w' : Workspace} {names : List Text} :
    ∀ {w : Workspace}, w.run (makeTraits s j names) = (.error failure, w') ↔
      ∃ name, FailsAt s j name failure w names w' := by
  induction names with
  | nil =>
    intro w
    constructor
    · intro h
      cases (Prod.mk.inj h).1
    · rintro ⟨name, h⟩
      cases h
  | cons first rest ih =>
    intro w
    unfold makeTraits
    rw [Workspace.run_bind]
    cases hfirst : w.run (makeTrait s j first) with
    | mk answer between =>
      cases answer with
      | error other =>
        constructor
        · intro h
          obtain ⟨hanswer, rfl⟩ := Prod.mk.inj h
          obtain rfl := Except.error.inj hanswer
          exact ⟨first, .here hfirst⟩
        · rintro ⟨name, h⟩
          cases h with
          | here hfails =>
            rw [hfirst] at hfails
            obtain ⟨hother, rfl⟩ := Prod.mk.inj hfails
            rw [Except.error.inj hother]
          | later hmade hrest =>
            rw [hfirst] at hmade
            cases (Prod.mk.inj hmade).1
      | ok file =>
        dsimp only
        rw [run_return_eq_error_iff, ih]
        constructor
        · rintro ⟨name, h⟩
          exact ⟨name, .later hfirst h⟩
        · rintro ⟨name, h⟩
          cases h with
          | here hfails =>
            rw [hfirst] at hfails
            cases (Prod.mk.inj hfails).1
          | later hmade hrest =>
            rw [hfirst] at hmade
            rw [(Prod.mk.inj hmade).2]
            exact ⟨name, hrest⟩

/-- The workspace in which a run begins to render: what it is about to do has been told. -/
def announced (w : Workspace) (s : Settings) (j : Journal) : Workspace :=
  (w.run (tell j .info ("Porting ".toList ++ count (sorted s.filenames).length ++
    " tag files from ".toList ++ s.sourceDir.toText ++ " to ".toList ++ s.targetDir.toText))).2

/-- Where rendering fails, the run fails as it does, dry or not. -/
theorem run_perform_of_unrendered {w w' : Workspace} (dry : Bool)
    (h : (announced w s j).run (makeTraits s j (sorted s.filenames)) = (.error failure, w')) :
    w.run (perform s j dry) = (.error failure, w') := by
  unfold announced tell at h
  rw [Workspace.run_lift] at h
  unfold perform tell
  dsimp only
  rw [Workspace.run_bind, Workspace.run_lift]
  dsimp only
  rw [Workspace.run_bind, h]

/-- A dry run renders and does nothing else that could fail. -/
theorem run_perform_dry_eq_error_iff {w w' : Workspace} :
    w.run (perform s j true) = (.error failure, w') ↔
      (announced w s j).run (makeTraits s j (sorted s.filenames)) = (.error failure, w') := by
  constructor
  · intro h
    unfold announced tell
    rw [Workspace.run_lift]
    unfold perform tell at h
    dsimp only at h
    rw [Workspace.run_bind, Workspace.run_lift] at h
    dsimp only at h ⊢
    rw [Workspace.run_bind] at h
    split at h
    · rw [if_pos rfl, Workspace.run_bind, Workspace.run_lift] at h
      cases (Prod.mk.inj h).1
    · rename_i hrender
      rw [hrender, h]
  · exact run_perform_of_unrendered true

/-- The file of `name` cannot be rendered, and there is no lesser name of which that is so. -/
structure LeastFailing (w : Workspace) (s : Settings) (name : Text) (failure : Failure) :
    Prop where
  mem : name ∈ s.filenames
  fails : w.render s name = .error failure
  least : ∀ other ∈ s.filenames, (∃ fault, w.render s other = .error fault) →
    name.notAfter other = true

/-- Rendering all files in the order of their names fails as the least name that fails. -/
theorem renderAll_eq_error_iff {w : Workspace} :
    w.renderAll s (sorted s.filenames) = .error failure ↔
      ∃ name, LeastFailing w s name failure := by
  have hmem : ∀ name, name ∈ sorted s.filenames ↔ name ∈ s.filenames :=
    fun _ => (sorted_perm s.filenames).mem_iff
  have hpairs := pairwise_sorted s.filenames
  constructor
  · intro h
    obtain ⟨before, name, behind, heq, hfails, hbefore⟩ := mapM_eq_error_iff.1 h
    rw [heq] at hmem hpairs
    refine ⟨name, (hmem name).1 (by simp), hfails, ?_⟩
    rintro other hother ⟨fault, hfault⟩
    -- a name before this one has been rendered, and this one is not after the others
    rcases List.mem_append.1 ((hmem other).2 hother) with hin | hin
    · obtain ⟨file, hfile⟩ := hbefore other hin
      rw [hfile] at hfault
      cases hfault
    · rcases List.mem_cons.1 hin with rfl | hin
      · simpa using Text.notAfter_total other other
      · exact (List.pairwise_cons.1 (List.pairwise_append.1 hpairs).2.1).1 other hin
  · rintro ⟨name, hleast⟩
    cases hall : w.renderAll s (sorted s.filenames) with
    | ok files =>
      obtain ⟨hnames, hrendered⟩ := Workspace.renderAll_eq_ok hall
      have hin : name ∈ files.map (·.filename) := by
        rw [hnames]
        exact (hmem name).2 hleast.mem
      obtain ⟨file, hfile, rfl⟩ := List.mem_map.1 hin
      have hboth := (hrendered file hfile).symm.trans hleast.fails
      cases hboth
    | error other =>
      obtain ⟨before, first, behind, heq, hfails, hbefore⟩ := mapM_eq_error_iff.1 hall
      rw [heq] at hmem hpairs
      have hfirst : name.notAfter first = true :=
        hleast.least first ((hmem first).1 (by simp)) ⟨other, hfails⟩
      have hname : first.notAfter name = true := by
        rcases List.mem_append.1 ((hmem name).2 hleast.mem) with hin | hin
        · obtain ⟨file, hfile⟩ := hbefore name hin
          rw [hleast.fails] at hfile
          cases hfile
        · rcases List.mem_cons.1 hin with rfl | hin
          · exact hfirst
          · exact (List.pairwise_cons.1 (List.pairwise_append.1 hpairs).2.1).1 name hin
      rw [Text.notAfter_antisymm hname hfirst, hleast.fails] at hfails
      rw [Except.error.inj hfails]

/--
**Settings that differ in the order of their names lead to the same run: the
same answer and the same state of everything. Where rendering fails, the run
fails, dry or not, as the first file does that fails in its turn, in the order of
the names; and if the journal writes to no file, as the file of the least name
does that cannot be rendered.**
-/
theorem perform_reordered (hsame : t = { s with filenames := t.filenames })
    (hperm : t.filenames.Perm s.filenames) (j : Journal) (w : Workspace) :
    (∀ dry, w.run (perform t j dry) = w.run (perform s j dry)) ∧
    (∀ failure w', w.run (perform s j true) = (.error failure, w') ↔
      ∃ name, FailsAt s j name failure (announced w s j) (sorted s.filenames) w') ∧
    (∀ failure w', w.run (perform s j true) = (.error failure, w') →
      w.run (perform s j false) = (.error failure, w')) ∧
    (j.WritesNoFile → ∀ failure, (w.run (perform s j true)).1 = .error failure ↔
      ∃ name, LeastFailing w s name failure) := by
  refine ⟨fun dry => ?_, fun failure w' => ?_, fun failure w' h => ?_, fun hj failure => ?_⟩
  · rw [hsame, perform_of_perm hperm]
  · rw [run_perform_dry_eq_error_iff, run_makeTraits_eq_error_iff]
  · exact run_perform_of_unrendered false (run_perform_dry_eq_error_iff.1 h)
  · rw [← renderAll_eq_error_iff]
    obtain ⟨answer, tree, errors, hends, hrun⟩ := perform_ends hj w s true
    rw [hrun]
    cases hrender : w.renderAll s (sorted s.filenames) with
    | error other =>
      rw [(hends.of_unrendered hrender).1]
    | ok files =>
      rw [(hends.of_rendered_of_dry hrender).1]

/-! ## Two missing sources -/

/-- An empty project. -/
def emptyWorkspace : Workspace where
  tree := .directory []
  standing := .at []
  homes := fun _ => none
  now := []

/-- Settings that name two sources, one of them twice. -/
def missingSettings : Settings :=
  { Settings.defaults (.ofText ['.']) with
    filenames := ["B.java".toList, "A.java".toList, "B.java".toList] }

/-- The same settings with the names in another order. -/
def reorderedSettings : Settings :=
  { missingSettings with filenames := ["A.java".toList, "B.java".toList, "B.java".toList] }

/-- In either order the run fails for the source that comes first among the names. -/
theorem perform_reordered_missing :
    reorderedSettings = { missingSettings with filenames := reorderedSettings.filenames } ∧
    reorderedSettings.filenames.Perm missingSettings.filenames ∧
    Journal.fresh.WritesNoFile ∧
    (∀ dry, emptyWorkspace.run (perform reorderedSettings .fresh dry) =
      emptyWorkspace.run (perform missingSettings .fresh dry)) ∧
    ∃ fault, emptyWorkspace.render missingSettings "A.java".toList = .error fault ∧
      (emptyWorkspace.run (perform missingSettings .fresh true)).1 = .error fault := by
  have hsame : reorderedSettings =
      { missingSettings with filenames := reorderedSettings.filenames } := rfl
  have hperm : reorderedSettings.filenames.Perm missingSettings.filenames := by decide
  have hj : Journal.fresh.WritesNoFile := fun path hin => by cases hin
  obtain ⟨hruns, -, -, hleast⟩ := perform_reordered hsame hperm Journal.fresh emptyWorkspace
  have hfails : (emptyWorkspace.render missingSettings "A.java".toList).toOption.isNone = true := by
    decide +kernel
  refine ⟨hsame, hperm, hj, hruns, ?_⟩
  cases hrender : emptyWorkspace.render missingSettings "A.java".toList with
  | ok file =>
    rw [hrender] at hfails
    cases hfails
  | error fault =>
    refine ⟨fault, rfl, (hleast hj fault).2 ⟨"A.java".toList, by decide, hrender, ?_⟩⟩
    have hfirst : ∀ other ∈ missingSettings.filenames,
        Text.notAfter "A.java".toList other = true := by decide
    exact fun other hother _ => hfirst other hother

end Run

end TraitDoc
