import TraitDoc.Failure
import TraitDoc.Settings.Basic
import TraitDoc.Text.Blank
import TraitDoc.Yaml.Value
/-!
# Settings documents

A settings document is a mapping with up to six keys of interest. Each key sets
one field, and a key that is absent or holds nothing leaves its field at the
default. Keys of other names do not matter, whatever they hold. A document that
counts as empty says nothing, so it leaves all fields at their defaults.

Directories are read from the root of the project, home directories being
spelled out. A filename that is given twice counts once, where it stands first.

The six readers are independent of one another; where several of them fail, the
first in the order of `ofEntries` is the fault of the document.

## Main definitions

* `Settings.directory`, `Settings.filenamesOf`, `Settings.patchesOf`,
  `Settings.suffix` — the readers of single keys.
* `Settings.ofDocument` — the settings that a document says.
* `Settings.ofText` — the settings that a text says.

## Main statements

* `Settings.mem_distinct`, `Settings.nodup_distinct` — dropping repetitions
  loses no name and leaves none twice.
-/

namespace TraitDoc.Settings

open Yaml (Value)

/-! ## The keys -/

namespace Key

def sourceDir : Text := "src_dir".toList

def targetDir : Text := "docsrc_dir".toList

def filenames : Text := "filenames".toList

def patches : Text := "patches".toList

def sourceSuffix : Text := "source_suffix".toList

def targetSuffix : Text := "target_suffix".toList

end Key

/-- What a mapping says under a key, where an absent key says nothing just as a null does. -/
def field (key : Text) (entries : List (Value × Value)) : Value :=
  (Value.get? key entries).getD .null

/-! ## Readers of single keys -/

/-- The directory that is given under a key, read from the root of the project. -/
def directory (homes : Homes) (root : FilePath) (key : Text) (default : FilePath) :
    Value → Except Failure FilePath
  | .null => .ok default
  | .text t =>
    if Text.isBlank t then .error (.settings (.noDirectory key))
    else
      match (FilePath.ofText t).expandHome homes with
      | .ok path => .ok (root.join path)
      | .error fault => .error (.home fault)
  | _ => .error (.settings (.noDirectory key))

/-- The suffix that is given under a key. -/
def suffix (key default : Text) : Value → Except SettingsFault Text
  | .null => .ok default
  | .text t => if t.head? = some '.' then .ok t else .error (.noSuffix key)
  | _ => .error (.noSuffix key)

/-- The filename that an item of a list gives. -/
def filename : Value → Except SettingsFault Text
  | .text t =>
    if Text.isBlank t then .error .blankFilename
    else if t.head? = some '/' then .error (.absoluteFilename t)
    else .ok t
  | _ => .error .blankFilename

/-- The names in the order of their first occurrence. -/
def distinct (names : List Text) : List Text :=
  names.foldl (fun done name => if name ∈ done then done else done ++ [name]) []

/-- The filenames that are given. -/
def filenamesOf : Value → Except SettingsFault (List Text)
  | .null => .ok Default.filenames
  | .list items => (items.mapM filename).map distinct
  | _ => .error .noFilenames

/-- The patch that an entry of a mapping gives. -/
def patch : Value × Value → Except SettingsFault (Text × Text)
  | (.text name, .text literal) => .ok (name, literal)
  | _ => .error .noPatches

/-- The patches that are given. -/
def patchesOf : Value → Except SettingsFault (List (Text × Text))
  | .null => .ok Default.patches
  | .mapping entries => entries.mapM patch
  | _ => .error .noPatches

/-! ## The document -/

/-- The number of collections around one another that matter: the document and the fields in it. -/
def documentDepth : Nat := 2

/-- The settings that the entries of a mapping say. -/
def ofEntries (homes : Homes) (root : FilePath) (entries : List (Value × Value)) :
    Except Failure Settings := do
  let plain := Settings.defaults root
  let sourceDir ←
    directory homes root Key.sourceDir plain.sourceDir (field Key.sourceDir entries)
  let targetDir ←
    directory homes root Key.targetDir plain.targetDir (field Key.targetDir entries)
  let filenames ← (filenamesOf (field Key.filenames entries)).mapError .settings
  let patches ← (patchesOf (field Key.patches entries)).mapError .settings
  let sourceSuffix ←
    (suffix Key.sourceSuffix plain.sourceSuffix (field Key.sourceSuffix entries)).mapError
      .settings
  let targetSuffix ←
    (suffix Key.targetSuffix plain.targetSuffix (field Key.targetSuffix entries)).mapError
      .settings
  return { root, sourceDir, targetDir, filenames, sourceSuffix, targetSuffix, patches }

/-- The settings that a document says. -/
def ofDocument (homes : Homes) (root : FilePath) (document : Value) : Except Failure Settings :=
  if document.isEmpty then ofEntries homes root []
  else
    match document with
    | .mapping entries => ofEntries homes root entries
    | _ => .error (.settings .noMapping)

/-- The settings that a text says when `parse` reads it as a document; a blank text says nothing. -/
def ofText (parse : Text → Except Yaml.Fault Value) (homes : Homes) (root : FilePath)
    (text : Text) : Except Failure Settings :=
  if Text.isBlank text then ofEntries homes root []
  else
    match parse text with
    | .ok document => ofDocument homes root document
    | .error fault => .error (.ofYaml fault)

/-! ## Repetitions -/

theorem mem_foldl_distinct {names done : List Text} {name : Text} :
    name ∈ names.foldl (fun done name => if name ∈ done then done else done ++ [name]) done ↔
      name ∈ done ∨ name ∈ names := by
  induction names generalizing done with
  | nil => simp
  | cons first names ih =>
    rw [List.foldl_cons, ih]
    split <;> simp only [List.mem_append, List.mem_cons, List.not_mem_nil, or_false]
    · rename_i h
      constructor
      · rintro (h' | h')
        · exact Or.inl h'
        · exact Or.inr (Or.inr h')
      · rintro (h' | rfl | h')
        · exact Or.inl h'
        · exact Or.inl h
        · exact Or.inr h'
    · rw [or_assoc]

/-- Dropping repetitions loses no name and adds none. -/
theorem mem_distinct {names : List Text} {name : Text} :
    name ∈ distinct names ↔ name ∈ names := by
  simp [distinct, mem_foldl_distinct]

theorem nodup_foldl_distinct {names done : List Text} (h : done.Nodup) :
    (names.foldl (fun done name => if name ∈ done then done else done ++ [name]) done).Nodup := by
  induction names generalizing done with
  | nil => exact h
  | cons first names ih =>
    rw [List.foldl_cons]
    apply ih
    split
    · exact h
    · rename_i hfirst
      rw [List.nodup_append]
      refine ⟨h, by simp, fun a ha b hb => ?_⟩
      rw [List.mem_singleton.1 hb]
      rintro rfl
      exact hfirst ha

/-- No name is left twice. -/
theorem nodup_distinct (names : List Text) : (distinct names).Nodup :=
  nodup_foldl_distinct List.nodup_nil

end TraitDoc.Settings
