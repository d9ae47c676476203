import TraitDoc.Proofs.StatefulHosts
import TraitDoc.Workspace
/-!
# Rendering in a workspace

The first phase of a run reads and renders. In a workspace it leaves everything
as it was but what has been printed on the stream of messages, provided that the
journal writes to no file. What it answers is then a function of the workspace,
`Workspace.render`, which says nothing of messages.

A computation that can fail runs on a workspace by `Workspace.run`, a plain one
by `Workspace.ask`. One lemma for each way to build computations takes such runs
apart, and each function of the phase has one lemma that says what it does.

## Main definitions

* `Workspace.ask`, `Workspace.run` — a computation on a workspace.
* `Workspace.withErrors` — the workspace with other messages printed.
* `Journal.WritesNoFile` — no sink of the journal is a file.
* `Workspace.textAt`, `Workspace.render` — reading and rendering, without messages.

## Main statements

* `Workspace.run_makeTraits` — what the phase answers, and what it leaves.
-/

namespace TraitDoc

namespace Workspace

/-- The workspace in which `errors` has been printed on the stream of messages. -/
def withErrors (w : Workspace) (errors : Text) : Workspace := { w with errors }

@[simp] theorem withErrors_withErrors (w : Workspace) (printed errors : Text) :
    (w.withErrors printed).withErrors errors = w.withErrors errors := rfl

/-! ## Running computations -/

/-- What an operation answers on a workspace, and the workspace that it leaves. -/
def ask {α : Type} (w : Workspace) (x : StateM Workspace α) : α × Workspace := x w

/-- What a computation answers on a workspace, and the workspace that it leaves. -/
def run {α : Type} (w : Workspace) (x : ExceptT Failure (StateM Workspace) α) :
    Except Failure α × Workspace := w.ask x.run

section

variable {α β : Type}

theorem ask_bind {w w' : Workspace} {x : StateM Workspace α} {a : α} (h : w.ask x = (a, w'))
    (f : α → StateM Workspace β) : w.ask (x >>= f) = w'.ask (f a) := askIn_bind h f

theorem run_fromExcept (w : Workspace) (r : Except Failure α) : w.run (fromExcept r) = (r, w) := rfl

theorem run_bind (w : Workspace) (x : ExceptT Failure (StateM Workspace) α)
    (f : α → ExceptT Failure (StateM Workspace) β) :
    w.run (x >>= f) = match w.run x with
      | (.ok a, w') => w'.run (f a)
      | (.error failure, w') => (.error failure, w') := by
  rcases hx : w.run x with ⟨failure | a, w'⟩
  · exact ask_bind hx (ExceptT.bindCont f)
  · exact ask_bind hx (ExceptT.bindCont f)

/-- An operation that cannot fail answers. -/
theorem run_lift (w : Workspace) (x : StateM Workspace α) :
    w.run (ExceptT.lift x) = (.ok (w.ask x).1, (w.ask x).2) := runIn_lift w x

/-- A file operation runs alone, and its fault is a failure. -/
theorem run_fromFile (w : Workspace) (answer : StateM Workspace (Except FileFault α)) :
    w.run (fromFile answer) = ((w.ask answer).1.mapError Failure.file, (w.ask answer).2) :=
  runIn_fromFile w answer

end

/-! ## Messages -/

variable {j : Journal}

/-- All but what has been printed on the stream of messages is as it was. -/
private def SameButErrors (w v : Workspace) : Prop := ∃ errors, v = w.withErrors errors

private instance : IsPreorder Workspace SameButErrors where
  refl w := ⟨w.errors, rfl⟩
  trans := by
    rintro _ _ _ ⟨_, rfl⟩ ⟨errors, rfl⟩
    exact ⟨errors, rfl⟩

/-- A journal that writes to no file prints messages and does nothing else. -/
theorem note_eq (hj : j.WritesNoFile) (w : Workspace) (part : Text) (level : Level)
    (message : Text) : ∃ errors,
      w.ask (j.note part level message) = ((), w.withErrors errors) := by
  have hprint : ∀ text, Leads SameButErrors (Host.print .errors text) := fun text w => ⟨_, rfl⟩
  obtain ⟨errors, hsame⟩ := Leads.note hj hprint part level message w
  exact ⟨errors, Prod.ext rfl hsame⟩

theorem run_tell (hj : j.WritesNoFile) (w : Workspace) (level : Level) (message : Text) :
    ∃ errors, w.run (Run.tell j level message) = (.ok (), w.withErrors errors) := by
  obtain ⟨errors, hnote⟩ := note_eq hj w Run.journalName level message
  refine ⟨errors, ?_⟩
  unfold run Run.tell
  exact ask_bind hnote fun a => pure (Except.ok a)

/-- A message is told, and what follows runs after it. -/
theorem run_tell_bind (hj : j.WritesNoFile) (w : Workspace) (level : Level) (message : Text) :
    ∃ errors, ∀ {β : Type} (f : Unit → ExceptT Failure (StateM Workspace) β),
      w.run (Run.tell j level message >>= f) = (w.withErrors errors).run (f ()) := by
  obtain ⟨errors, htell⟩ := run_tell hj w level message
  refine ⟨errors, fun f => ?_⟩
  rw [run_bind, htell]

/-! ## One file -/

/-- The text of the file at a path. -/
def textAt (w : Workspace) (p : FilePath) : Except Failure Text :=
  match w.answer p FileTree.read with
  | .error fault => .error (.file fault)
  | .ok bytes =>
    match Text.ofFile? bytes with
    | some text => .ok text
    | none => .error .notText

@[simp] theorem textAt_withErrors (w : Workspace) (errors : Text) (p : FilePath) :
    (w.withErrors errors).textAt p = w.textAt p := rfl

/-- The trait file of the source file of that name. -/
def render (w : Workspace) (s : Settings) (filename : Text) : Except Failure TraitFile := do
  let text ← w.textAt (s.sourcePath filename)
  (s.traitFile { filename, text, declaredName := s.declaredName filename }).mapError .render

theorem run_readText (w : Workspace) (p : FilePath) : w.run (readText p) = (w.textAt p, w) := by
  have hread : w.ask (Host.read p) = (w.answer p FileTree.read, w) := rfl
  unfold readText textAt
  rw [run_bind, run_fromFile, hread]
  cases w.answer p FileTree.read with
  | error fault => rfl
  | ok bytes =>
    show w.run (match Text.ofFile? bytes with
      | some text => pure text
      | none => throw .notText) = (match Text.ofFile? bytes with
      | some text => .ok text
      | none => .error .notText, w)
    cases Text.ofFile? bytes with
    | none => rfl
    | some text => rfl

theorem run_readSource (hj : j.WritesNoFile) (w : Workspace) (s : Settings) (filename : Text) :
    ∃ errors, w.run (Run.readSource s j filename) = ((w.textAt (s.sourcePath filename)).map
      fun text => { filename, text, declaredName := s.declaredName filename },
        w.withErrors errors) := by
  unfold Run.readSource
  obtain ⟨errors, htell⟩ := run_tell_bind hj w .debug
    ("Reading ".toList ++ (s.sourcePath filename).toText)
  refine ⟨errors, (htell _).trans ?_⟩
  rw [run_bind, run_readText, textAt_withErrors]
  cases w.textAt (s.sourcePath filename) with
  | error failure => rfl
  | ok text => rfl

theorem run_makeTrait (hj : j.WritesNoFile) (w : Workspace) (s : Settings) (filename : Text) :
    ∃ errors, w.run (Run.makeTrait s j filename) = (w.render s filename, w.withErrors errors) := by
  unfold Run.makeTrait render
  obtain ⟨errors, hsource⟩ := run_readSource hj w s filename
  rw [run_bind, hsource]
  cases w.textAt (s.sourcePath filename) with
  | error failure => exact ⟨errors, rfl⟩
  | ok text =>
    dsimp only [Except.map]
    rw [run_bind, run_fromExcept]
    cases hfile : (s.traitFile { filename, text, declaredName := s.declaredName filename }).mapError
      Failure.render with
    | error failure =>
      refine ⟨errors, ?_⟩
      show (Except.error failure, _) = (Except.mapError Failure.render _, _)
      rw [hfile]
    | ok file =>
      show ∃ errors', (w.withErrors errors).run (if file.isPatched = true then do
          Run.tell j .debug ("Applying special patch to ".toList ++ filename)
          pure file
        else pure file) = (Except.mapError Failure.render _, w.withErrors errors')
      rw [hfile]
      split
      · obtain ⟨printed, htell⟩ := run_tell_bind hj (w.withErrors errors) .debug
          ("Applying special patch to ".toList ++ filename)
        exact ⟨printed, htell _⟩
      · exact ⟨errors, rfl⟩

/-! ## All files -/

/-- The trait files of the source files of these names, or the first failure. -/
def renderAll (w : Workspace) (s : Settings) (names : List Text) : Except Failure (List TraitFile) :=
  names.mapM (w.render s)

/-- Messages make no difference to what is rendered. -/
@[simp] theorem renderAll_withErrors (w : Workspace) (errors : Text) (s : Settings)
    (names : List Text) : (w.withErrors errors).renderAll s names = w.renderAll s names := rfl

/-- A trait file goes where the settings say, with the patch that they hold under its name. -/
theorem render_eq_ok {w : Workspace} {s : Settings} {filename : Text} {file : TraitFile}
    (h : w.render s filename = .ok file) : file.filename = filename ∧
      file.path = s.targetPath filename ∧ file.patch = s.patch? filename := by
  unfold render Settings.traitFile at h
  cases htext : w.textAt (s.sourcePath filename) with
  | error failure =>
    rw [htext] at h
    cases h
  | ok text =>
    rw [htext] at h
    dsimp only [bind, Except.bind] at h
    cases hrender : Trait.ofSource (s.declaredName filename) text with
    | error fault =>
      rw [hrender] at h
      cases h
    | ok rendered =>
      rw [hrender] at h
      obtain rfl := Except.ok.inj h
      exact ⟨rfl, rfl, rfl⟩

/-- Each name has been rendered, in turn. -/
theorem renderAll_eq_ok {w : Workspace} {s : Settings} {names : List Text}
    {files : List TraitFile} (h : w.renderAll s names = .ok files) :
    files.map (·.filename) = names ∧ ∀ file ∈ files, w.render s file.filename = .ok file := by
  induction names generalizing files with
  | nil =>
    obtain rfl := Except.ok.inj h
    exact ⟨rfl, by simp⟩
  | cons filename names ih =>
    rw [renderAll, List.mapM_cons] at h
    cases hfile : w.render s filename with
    | error failure =>
      rw [hfile] at h
      cases h
    | ok file =>
      rw [hfile] at h
      cases hrest : w.renderAll s names with
      | error failure =>
        rw [renderAll] at hrest
        rw [hrest] at h
        cases h
      | ok rest =>
        obtain ⟨hnames, hrendered⟩ := ih hrest
        rw [renderAll] at hrest
        rw [hrest] at h
        obtain rfl := Except.ok.inj h
        have hname := (render_eq_ok hfile).1
        refine ⟨by rw [List.map_cons, hnames, hname], fun other hother => ?_⟩
        rcases List.mem_cons.1 hother with rfl | hother
        · rw [hname]
          exact hfile
        · exact hrendered other hother

/-- Rendering looks at the files and at where the program stands, and at nothing else. -/
theorem renderAll_congr {w v : Workspace} (htree : v.tree = w.tree)
    (hstanding : v.standing = w.standing) (s : Settings) (names : List Text) :
    v.renderAll s names = w.renderAll s names := by
  have htext : v.textAt = w.textAt := by
    funext p
    unfold textAt answer
    rw [htree, hstanding]
  unfold renderAll render
  rw [htext]

/-- **The first phase answers what rendering answers, and leaves all but the messages as it was.** -/
theorem run_makeTraits (hj : j.WritesNoFile) (s : Settings) :
    ∀ (names : List Text) (w : Workspace), ∃ errors,
      w.run (Run.makeTraits s j names) = (w.renderAll s names, w.withErrors errors) := by
  intro names
  induction names with
  | nil => intro w; exact ⟨w.errors, rfl⟩
  | cons filename names ih =>
    intro w
    obtain ⟨errors, hfile⟩ := run_makeTrait hj w s filename
    obtain ⟨errors', hrest⟩ := ih (w.withErrors errors)
    rw [renderAll_withErrors, withErrors_withErrors] at hrest
    unfold Run.makeTraits
    rw [run_bind, hfile, renderAll, List.mapM_cons]
    cases w.render s filename with
    | error failure => exact ⟨errors, rfl⟩
    | ok file =>
      refine ⟨errors', ?_⟩
      dsimp only
      rw [run_bind, hrest, renderAll]
      cases names.mapM (w.render s) with
      | error failure => rfl
      | ok files => rfl

end Workspace

end TraitDoc
