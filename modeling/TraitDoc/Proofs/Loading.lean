import TraitDoc.Proofs.Readers
import TraitDoc.Proofs.Rendering
/-!
# Loading in a workspace

Loading settings looks at files and changes nothing. What it answers is a
function of the workspace, `Workspace.loadedWith`: the path is followed to a
settings file, which is there or not, and holds a document or not.

So much of it is a matter of the workspace, and the rest a matter of the
document. Whatever the document is, settings that have been loaded are said by
entries of a mapping, field by field, each by the reader of its key; where there
is no document, or an empty one, by no entries at all.

## Main definitions

* `Workspace.entryKind?` — looking at a path.
* `Workspace.located`, `Workspace.loadedWith` — loading, without a host.
* `Settings.entriesOf`, `Workspace.entriesAt` — the entries that a text and a settings file give.
* `Settings.Said` — the settings that the entries of a document say.
* `Settings.Valid` — what all settings have in common that have been loaded.

## Main statements

* `Workspace.run_loadWith` — what loading answers, and that it leaves all as it was.
* `Settings.ofEntries_eq_ok_iff` — what the entries of a document say.
* `Workspace.loadedWith_eq_ok_iff` — what settings are loaded, whatever reads the documents.
* `Workspace.said_of_loaded`, `Workspace.valid_of_loaded` — what settings have been loaded.
-/

namespace TraitDoc

namespace Workspace

/-! ## Looking -/

/-- What stands at a path, where a path that leads nowhere has nothing there. -/
def entryKind? (w : Workspace) (p : FilePath) : Except FileFault (Option EntryKind) :=
  match w.kind p with
  | .ok kind => .ok (some kind)
  | .error .unfit => .ok none
  | .error (.refused cause path) =>
    if cause.showsNothing then .ok none else .error (.refused cause path)

theorem ask_entry? (w : Workspace) (p : FilePath) :
    (w.ask <| Host.entry? p) = (w.entryKind? p, w) := by
  have hkind : w.ask (Host.kind p) = (w.kind p, w) := rfl
  unfold Host.entry? entryKind?
  rw [ask_bind hkind]
  cases w.kind p with
  | ok kind => rfl
  | error fault =>
    cases fault with
    | unfit => rfl
    | refused cause path =>
      dsimp only
      split
      · rfl
      · rfl

theorem ask_isDirectory (w : Workspace) (p : FilePath) :
    w.ask (Host.isDirectory p) = ((w.entryKind? p).map (· == some .directory), w) := by
  unfold Host.isDirectory
  rw [ask_bind (w.ask_entry? p)]
  rfl

theorem ask_isThere (w : Workspace) (p : FilePath) :
    w.ask (Host.isThere p) = ((w.entryKind? p).map Option.isSome, w) := by
  unfold Host.isThere
  rw [ask_bind (w.ask_entry? p)]
  rfl

/-- The names that lead from the root to where a path leads. -/
def FromRoot (w : Workspace) (p : FilePath) (names : List Text) : Prop :=
  p.isAbsolute = true ∧ names = p.names ∨
    p.isAbsolute = false ∧ ∃ directory, w.place = .ok directory ∧ names = directory.names ++ p.names

theorem resolved_eq_ok_iff {w : Workspace} {p q : FilePath} :
    w.resolved p = .ok q ↔
      '\x00' ∉ p.toText ∧ ∃ names, w.FromRoot p names ∧ q = ⟨.root, FilePath.settle names⟩ := by
  unfold resolved FromRoot FilePath.resolved
  by_cases hnull : '\x00' ∈ p.toText
  · simp [hnull]
  · rw [if_neg hnull]
    cases habsolute : p.isAbsolute with
    | true => simp [hnull, habsolute, eq_comm]
    | false =>
      cases w.place with
      | error fault => simp [Except.map]
      | ok directory => simp [hnull, habsolute, FilePath.join, Except.map, eq_comm]

theorem ask_resolve (w : Workspace) (p : FilePath) :
    w.ask (Host.resolve p) = (w.resolved p, w) := rfl

/-! ## Loading -/

section

variable {α β : Type} {w : Workspace}

/-- Computations that leave the workspace as it is answer one after the other. -/
theorem run_bind_of_same {x : ExceptT Failure (StateM Workspace) α} {r : Except Failure α}
    {f : α → ExceptT Failure (StateM Workspace) β} {g : α → Except Failure β}
    (hx : w.run x = (r, w)) (hf : ∀ a, w.run (f a) = (g a, w)) :
    w.run (x >>= f) = (r >>= g, w) := by
  rw [run_bind, hx]
  cases r with
  | error failure => rfl
  | ok a => exact hf a

theorem run_fromFile_of_same {answer : StateM Workspace (Except FileFault α)}
    {r : Except FileFault α} (h : w.ask answer = (r, w)) :
    w.run (fromFile answer) = (r.mapError .file, w) := by
  rw [run_fromFile, h]

end

/-- The settings file that a path leads to, there or not. -/
def located (w : Workspace) (p : FilePath) : Except Failure FilePath := do
  let p ← (p.expandHome w.homes).mapError .home
  let isDirectory ← ((w.entryKind? p).map (· == some .directory)).mapError .file
  (w.resolved (Settings.fileFor p isDirectory)).mapError .file

theorem run_locate (w : Workspace) (p : FilePath) :
    w.run (Settings.locate p) = (w.located p, w) := by
  have hhomes : w.run (ExceptT.lift Host.homes) = (.ok w.homes, w) := rfl
  unfold Settings.locate
  rw [run_bind, hhomes]
  apply run_bind_of_same (run_fromExcept w _)
  intro p
  apply run_bind_of_same (run_fromFile_of_same (w.ask_isDirectory p))
  intro isDirectory
  exact run_fromFile_of_same (w.ask_resolve _)

/-- The settings that a settings file says when `parse` reads documents. -/
def loadedFrom (w : Workspace) (parse : Text → Except Yaml.Fault Yaml.Value) (file : FilePath) :
    Except Failure Settings := do
  if ← ((w.entryKind? file).map Option.isSome).mapError .file then
    let text ← w.textAt file
    Settings.ofText parse w.homes file.parent text
  else return Settings.defaults file.parent

theorem run_loadFile (w : Workspace) (parse : Text → Except Yaml.Fault Yaml.Value)
    (file : FilePath) : w.run (Settings.loadFile parse file) = (w.loadedFrom parse file, w) := by
  have hhomes : w.run (ExceptT.lift Host.homes) = (.ok w.homes, w) := rfl
  unfold Settings.loadFile loadedFrom
  apply run_bind_of_same (run_fromFile_of_same (w.ask_isThere file))
  intro there
  cases there with
  | false => rfl
  | true =>
    apply run_bind_of_same (w.run_readText file)
    intro text
    rw [run_bind, hhomes]
    rfl

/-- The settings of the project that a path names, when `parse` reads documents. -/
def loadedWith (w : Workspace) (parse : Text → Except Yaml.Fault Yaml.Value) (p : FilePath) :
    Except Failure Settings := do
  w.loadedFrom parse (← w.located p)

/-- **Loading answers from what is there, and leaves all as it was.** -/
theorem run_loadWith (w : Workspace) (parse : Text → Except Yaml.Fault Yaml.Value)
    (p : FilePath) : w.run (Settings.loadWith parse p) = (w.loadedWith parse p, w) :=
  run_bind_of_same (w.run_locate p) fun file => w.run_loadFile parse file

/-- What loading answers can be computed without a host. -/
theorem run_loadWith_of_toOption {w : Workspace}
    {parse : Text → Except Yaml.Fault Yaml.Value} {p : FilePath} {s : Settings}
    (h : (w.loadedWith parse p).toOption = some s) :
    w.run (Settings.loadWith parse p) = (.ok s, w) := by
  rw [run_loadWith, eq_ok_of_toOption h]

end Workspace

/-! ## What entries say -/

namespace Settings

open Yaml (Value)

variable {homes : Homes} {root : FilePath} {entries : List (Value × Value)} {s : Settings}

/-- The settings that the entries of a document say, each field by the reader of its key. -/
structure Said (homes : Homes) (root : FilePath) (entries : List (Value × Value)) (s : Settings) :
    Prop where
  root_eq : root = s.root
  sourceDir_eq : directory homes root Key.sourceDir (root.join Default.sourceDir)
    (field Key.sourceDir entries) = .ok s.sourceDir
  targetDir_eq : directory homes root Key.targetDir (root.join Default.targetDir)
    (field Key.targetDir entries) = .ok s.targetDir
  filenames_eq : filenamesOf (field Key.filenames entries) = .ok s.filenames
  patches_eq : patchesOf (field Key.patches entries) = .ok s.patches
  sourceSuffix_eq : suffix Key.sourceSuffix Default.sourceSuffix
    (field Key.sourceSuffix entries) = .ok s.sourceSuffix
  targetSuffix_eq : suffix Key.targetSuffix Default.targetSuffix
    (field Key.targetSuffix entries) = .ok s.targetSuffix

/-- What entries say: each reader answers its field. -/
theorem ofEntries_eq_ok_iff : ofEntries homes root entries = .ok s ↔ Said homes root entries s := by
  unfold ofEntries
  simp only [bind_eq_ok_iff, mapError_eq_ok_iff]
  constructor
  · rintro ⟨sourceDir, hsourceDir, targetDir, htargetDir, filenames, hfilenames, patches, hpatches,
      sourceSuffix, hsourceSuffix, targetSuffix, htargetSuffix, hs⟩
    obtain rfl := Except.ok.inj hs
    exact ⟨rfl, hsourceDir, htargetDir, hfilenames, hpatches, hsourceSuffix, htargetSuffix⟩
  · intro h
    refine ⟨_, h.sourceDir_eq, _, h.targetDir_eq, _, h.filenames_eq, _, h.patches_eq, _,
      h.sourceSuffix_eq, _, h.targetSuffix_eq, ?_⟩
    rw [h.root_eq]
    rfl

/-- Where there are no entries, the settings are the default ones. -/
theorem said_defaults (homes : Homes) (root : FilePath) : Said homes root [] (defaults root) :=
  ⟨rfl, rfl, rfl, rfl, rfl, rfl, rfl⟩

theorem ofEntries_nil (homes : Homes) (root : FilePath) :
    ofEntries homes root [] = .ok (defaults root) :=
  ofEntries_eq_ok_iff.2 (said_defaults homes root)

/-- The entries that a text gives: none where it is blank, or says what counts as nothing. -/
def entriesOf (parse : Text → Except Yaml.Fault Value) (text : Text) :
    Except Failure (List (Value × Value)) :=
  if Text.isBlank text then .ok []
  else
    match parse text with
    | .ok document =>
      if document.isEmpty then .ok []
      else
        match document with
        | .mapping entries => .ok entries
        | _ => .error (.settings .noMapping)
    | .error fault => .error (.ofYaml fault)

/-- What a text says is what the entries say that it gives. -/
theorem ofText_eq (parse : Text → Except Yaml.Fault Value) (homes : Homes) (root : FilePath)
    (text : Text) :
    ofText parse homes root text = entriesOf parse text >>= ofEntries homes root := by
  unfold ofText entriesOf
  split
  · rw [ok_bind]
  · cases parse text with
    | error fault => rw [error_bind]
    | ok document =>
      unfold ofDocument
      dsimp only
      split
      · rw [ok_bind]
      · cases document <;> simp only [ok_bind, error_bind]

end Settings

namespace Workspace

variable {w : Workspace} {p file : FilePath} {s : Settings}

/-- A settings file is spelled from the root. -/
theorem anchor_of_located (h : w.located p = .ok file) : file.anchor = .root := by
  simp only [located, bind_eq_ok_iff, mapError_eq_ok_iff] at h
  obtain ⟨p, -, isDirectory, -, hfile⟩ := h
  obtain ⟨-, names, -, rfl⟩ := resolved_eq_ok_iff.1 hfile
  rfl

/-- The entries that a settings file gives, none where it is not there. -/
def entriesAt (w : Workspace) (parse : Text → Except Yaml.Fault Yaml.Value) (file : FilePath) :
    Except Failure (List (Yaml.Value × Yaml.Value)) := do
  if ← ((w.entryKind? file).map Option.isSome).mapError .file then
    Settings.entriesOf parse (← w.textAt file)
  else return []

/-- What a settings file says is what the entries say that it gives. -/
theorem loadedFrom_eq (w : Workspace) (parse : Text → Except Yaml.Fault Yaml.Value)
    (file : FilePath) : w.loadedFrom parse file =
      w.entriesAt parse file >>= Settings.ofEntries w.homes file.parent := by
  unfold loadedFrom entriesAt
  rw [bind_assoc]
  congr 1
  funext there
  cases there with
  | false =>
    show Except.ok _ = Except.ok [] >>= _
    rw [ok_bind, Settings.ofEntries_nil]
  | true =>
    show (w.textAt file >>= _) = (w.textAt file >>= _) >>= _
    rw [bind_assoc]
    congr 1
    funext text
    exact Settings.ofText_eq _ _ _ _

/-- Settings have been loaded if a settings file gives entries that say them. -/
theorem loadedWith_eq_ok_iff {parse : Text → Except Yaml.Fault Yaml.Value} :
    w.loadedWith parse p = .ok s ↔ ∃ file entries, w.located p = .ok file ∧
      w.entriesAt parse file = .ok entries ∧ Settings.Said w.homes file.parent entries s := by
  unfold loadedWith
  simp only [bind_eq_ok_iff, loadedFrom_eq, Settings.ofEntries_eq_ok_iff]
  constructor
  · rintro ⟨file, hfile, entries, hentries, hsaid⟩
    exact ⟨file, entries, hfile, hentries, hsaid⟩
  · rintro ⟨file, entries, hfile, hentries, hsaid⟩
    exact ⟨file, hfile, entries, hentries, hsaid⟩

/-- Settings that have been loaded are said by entries, in the directory of the settings file. -/
theorem said_of_loaded {parse : Text → Except Yaml.Fault Yaml.Value}
    (h : w.loadedWith parse p = .ok s) :
    ∃ root entries, root.anchor = .root ∧ Settings.Said w.homes root entries s := by
  obtain ⟨file, entries, hfile, -, hsaid⟩ := loadedWith_eq_ok_iff.1 h
  have hanchor := anchor_of_located hfile
  exact ⟨file.parent, entries, hanchor, hsaid⟩

end Workspace

/-! ## Settings that have been said -/

namespace Settings

open Yaml (Value)

variable {homes : Homes} {root d : FilePath} {entries : List (Value × Value)} {s : Settings}

/-- A directory that is read from the root of an absolute path is absolute. -/
theorem isAbsolute_of_directory {key : Text} {default : FilePath} {value : Value}
    (hroot : root.isAbsolute = true) (hdefault : default.isAbsolute = true)
    (h : directory homes root key default value = .ok d) : d.isAbsolute = true := by
  rcases directory_eq_ok_iff.1 h with ⟨-, rfl⟩ | ⟨t, p, -, -, -, rfl⟩
  · exact hdefault
  · exact FilePath.isAbsolute_join hroot p

theorem head?_of_suffix {key default t : Text} {value : Value} (hdefault : default.head? = some '.')
    (h : suffix key default value = .ok t) : t.head? = some '.' := by
  rcases suffix_eq_ok_iff.1 h with ⟨-, rfl⟩ | ⟨-, hdot⟩
  · exact hdefault
  · exact hdot

/-- The names of files are given as texts that are not blank and do not begin at the root. -/
theorem isFilename_of_mem {value : Value} {names : List Text} {name : Text}
    (h : filenamesOf value = .ok names) (hname : name ∈ names) : IsFilename name := by
  rcases filenamesOf_eq_ok_iff.1 h with ⟨-, rfl⟩ | ⟨given, -, hall, rfl⟩
  · have hall : ∀ name ∈ Default.filenames,
        Text.isBlank name = false ∧ name.head? ≠ some '/' := by decide
    exact hall name hname
  · exact hall name (mem_distinct.1 hname)

/-- What all settings have in common that entries say. -/
structure Valid (s : Settings) : Prop where
  sourceDir_isAbsolute : s.sourceDir.isAbsolute = true
  targetDir_isAbsolute : s.targetDir.isAbsolute = true
  filename_relative : ∀ name ∈ s.filenames, Text.isBlank name = false ∧ name.head? ≠ some '/'
  sourceSuffix_head : s.sourceSuffix.head? = some '.'
  targetSuffix_head : s.targetSuffix.head? = some '.'

theorem Said.valid (h : Said homes root entries s) (hroot : root.isAbsolute = true) : s.Valid where
  sourceDir_isAbsolute :=
    isAbsolute_of_directory hroot (FilePath.isAbsolute_join hroot _) h.sourceDir_eq
  targetDir_isAbsolute :=
    isAbsolute_of_directory hroot (FilePath.isAbsolute_join hroot _) h.targetDir_eq
  filename_relative := fun _ hname => isFilename_of_mem h.filenames_eq hname
  sourceSuffix_head := head?_of_suffix rfl h.sourceSuffix_eq
  targetSuffix_head := head?_of_suffix rfl h.targetSuffix_eq

end Settings

/-- Settings that have been loaded have directories spelled from the root, and relative names. -/
theorem Workspace.valid_of_loaded {parse : Text → Except Yaml.Fault Yaml.Value} {w : Workspace}
    {p : FilePath} {s : Settings} (h : w.loadedWith parse p = .ok s) : s.Valid := by
  obtain ⟨root, entries, hroot, hsaid⟩ := said_of_loaded h
  apply hsaid.valid
  rw [FilePath.isAbsolute, hroot]
  rfl

end TraitDoc
