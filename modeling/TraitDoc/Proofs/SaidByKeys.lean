import Mathlib.Data.List.Perm.Basic
import TraitDoc.Proofs.AcceptedDocuments
import TraitDoc.Proofs.StayingBelow
import TraitDoc.Proofs.WellFormed
/-!
# Fields by their keys

A document has six keys of interest, and settings have a field for each of them.
The key, the content of its field and the reader of its values belong together,
so they are given here as one family over the keys. Loading is then one statement
for all keys: a field holds what the reader of its key answers for the value
under the key. A value that is not there and one that is null are the same to
all readers, and each answers its default.

Two facts follow. A field depends on its key alone, whatever stands under the
others, known or unknown. The order in which a mapping lists its entries is no
part of what it says, so patches are compared without it. And where nothing
stands under any of the keys, the settings are the default ones, for whatever
reason there is nothing: the file is missing, or blank, or holds null, or a
mapping that does not mention the keys.

## Main definitions

* `Settings.FieldKey` — the keys, with `name`, `Content`, `get` and `read`.
* `Settings.SameValue`, `Settings.FieldKey.Same` — values and contents without
  the order of mappings.
* `Workspace.HoldsMapping` — a settings file is read as a mapping.
* `Workspace.Silent` — a settings file says nothing about any field.

## Main statements

* `Settings.said_iff` — what settings entries say, key by key.
* `Settings.same_of_said` — a field depends on its key alone.
* `Workspace.loadedWith_of_silent` — what is loaded where nothing is said.
* `Settings.load_by_keys` — both for settings that have been loaded.
-/

namespace TraitDoc

namespace Settings

open Yaml (Value)

/-! ## Keys, fields and readers -/

/-- The keys of a document that set a field. -/
inductive FieldKey
  | sourceDir
  | targetDir
  | filenames
  | patches
  | sourceSuffix
  | targetSuffix
deriving DecidableEq, Repr

namespace FieldKey

/-- The key as a document spells it. -/
def name : FieldKey → Text
  | .sourceDir => Key.sourceDir
  | .targetDir => Key.targetDir
  | .filenames => Key.filenames
  | .patches => Key.patches
  | .sourceSuffix => Key.sourceSuffix
  | .targetSuffix => Key.targetSuffix

/-- What the field of a key can hold. -/
def Content : FieldKey → Type
  | .sourceDir | .targetDir => FilePath
  | .filenames => List Text
  | .patches => List (Text × Text)
  | .sourceSuffix | .targetSuffix => Text

/-- What settings hold in the field of a key. -/
def get : (key : FieldKey) → Settings → key.Content
  | .sourceDir, s => s.sourceDir
  | .targetDir, s => s.targetDir
  | .filenames, s => s.filenames
  | .patches, s => s.patches
  | .sourceSuffix, s => s.sourceSuffix
  | .targetSuffix, s => s.targetSuffix

/-- What the reader of a key answers for a value. -/
def read (homes : Homes) (root : FilePath) : (key : FieldKey) → Value → Except Failure key.Content
  | .sourceDir, value => directory homes root Key.sourceDir (defaults root).sourceDir value
  | .targetDir, value => directory homes root Key.targetDir (defaults root).targetDir value
  | .filenames, value => (filenamesOf value).mapError .settings
  | .patches, value => (patchesOf value).mapError .settings
  | .sourceSuffix, value =>
    (suffix Key.sourceSuffix (defaults root).sourceSuffix value).mapError .settings
  | .targetSuffix, value =>
    (suffix Key.targetSuffix (defaults root).targetSuffix value).mapError .settings

/-- For no value each reader answers the default. -/
theorem read_null (homes : Homes) (root : FilePath) (key : FieldKey) :
    key.read homes root .null = .ok (key.get (defaults root)) := by
  cases key <;> rfl

/-- Nothing stands under the key, or null. -/
def Unset (key : FieldKey) (entries : List (Value × Value)) : Prop :=
  Value.get? key.name entries = none ∨ Value.get? key.name entries = some .null

/-- Two contents of a field are the same, patches in whatever order. -/
def Same : (key : FieldKey) → key.Content → key.Content → Prop
  | .patches, a, b => List.Perm a b
  | _, a, b => a = b

theorem Same.refl (key : FieldKey) (content : key.Content) : key.Same content content := by
  cases key with
  | patches => exact List.Perm.refl _
  | _ => exact rfl

/-- Patches are the only content that a mapping can give. -/
theorem eq_patches_of_read {homes : Homes} {root : FilePath} {key : FieldKey}
    {entries : List (Value × Value)} {content : key.Content}
    (h : key.read homes root (.mapping entries) = .ok content) : key = .patches := by
  cases key with
  | patches => rfl
  | _ => cases h

theorem unset_iff {key : FieldKey} {entries : List (Value × Value)} :
    key.Unset entries ↔ field key.name entries = .null := by
  unfold Unset field
  cases Value.get? key.name entries <;> simp

end FieldKey

variable {homes : Homes} {root : FilePath} {entries entries₁ entries₂ : List (Value × Value)}
  {s s₁ s₂ : Settings}

/-- Settings are said by entries if each field holds what the reader of its key answers. -/
theorem said_iff : Said homes root entries s ↔ root = s.root ∧
    ∀ key : FieldKey, key.read homes root (field key.name entries) = .ok (key.get s) := by
  constructor
  · intro h
    refine ⟨h.root_eq, fun key => ?_⟩
    cases key with
    | sourceDir => exact h.sourceDir_eq
    | targetDir => exact h.targetDir_eq
    | filenames => exact mapError_eq_ok_iff.2 h.filenames_eq
    | patches => exact mapError_eq_ok_iff.2 h.patches_eq
    | sourceSuffix => exact mapError_eq_ok_iff.2 h.sourceSuffix_eq
    | targetSuffix => exact mapError_eq_ok_iff.2 h.targetSuffix_eq
  · intro h
    obtain ⟨hroot, hread⟩ := h
    exact {
      root_eq := hroot
      sourceDir_eq := hread .sourceDir
      targetDir_eq := hread .targetDir
      filenames_eq := mapError_eq_ok_iff.1 (hread .filenames)
      patches_eq := mapError_eq_ok_iff.1 (hread .patches)
      sourceSuffix_eq := mapError_eq_ok_iff.1 (hread .sourceSuffix)
      targetSuffix_eq := mapError_eq_ok_iff.1 (hread .targetSuffix) }

/-- Two values are the same, mappings with their entries in whatever order. -/
def SameValue (u v : Value) : Prop :=
  u = v ∨ ∃ d e, u = .mapping d ∧ v = .mapping e ∧ d.Perm e

theorem patchEntry_injective : Function.Injective patchEntry := by
  rintro ⟨name₁, literal₁⟩ ⟨name₂, literal₂⟩ h
  obtain ⟨hname, hliteral⟩ := Prod.mk.inj h
  exact Prod.ext (Value.text.inj hname) (Value.text.inj hliteral)

/-- Mappings that differ in the order of their entries give the same patches, but for the order. -/
theorem perm_of_patchesOf {d e : List (Value × Value)} {patches₁ patches₂ : List (Text × Text)}
    (h₁ : patchesOf (.mapping d) = .ok patches₁) (h₂ : patchesOf (.mapping e) = .ok patches₂)
    (hperm : d.Perm e) : patches₁.Perm patches₂ := by
  have hgiven : ∀ {entries patches}, patchesOf (.mapping entries) = .ok patches →
      entries = patches.map patchEntry := by
    intro entries patches h
    rcases patchesOf_eq_ok_iff.1 h with ⟨hnull, -⟩ | hmapping
    · cases hnull
    · exact Value.mapping.inj hmapping
  rw [hgiven h₁, hgiven h₂] at hperm
  exact (List.map_perm_map_iff patchEntry_injective).1 hperm

/-- Entries that agree under a key say the same in its field. -/
theorem same_of_said {key : FieldKey} (h₁ : Said homes root entries₁ s₁)
    (h₂ : Said homes root entries₂ s₂)
    (hkey : SameValue (field key.name entries₁) (field key.name entries₂)) :
    key.Same (key.get s₁) (key.get s₂) := by
  have hread₁ := (said_iff.1 h₁).2 key
  have hread₂ := (said_iff.1 h₂).2 key
  rcases hkey with heq | ⟨d, e, hd, he, hperm⟩
  · rw [heq, hread₂] at hread₁
    rw [Except.ok.inj hread₁]
    exact FieldKey.Same.refl key _
  · rw [hd] at hread₁
    rw [he] at hread₂
    obtain rfl := FieldKey.eq_patches_of_read hread₁
    exact perm_of_patchesOf (mapError_eq_ok_iff.1 hread₁) (mapError_eq_ok_iff.1 hread₂) hperm

/-- Entries with nothing under the keys say the default settings. -/
theorem said_of_unset (h : ∀ key : FieldKey, key.Unset entries) :
    Said homes root entries (defaults root) := by
  refine said_iff.2 ⟨rfl, fun key => ?_⟩
  rw [FieldKey.unset_iff.1 (h key)]
  exact FieldKey.read_null homes root key

end Settings

/-! ## Settings files -/

namespace FilePath

theorem settle_eq_self {names : List Text} (h : parentName ∉ names) : settle names = names := by
  have hreach := foldl_follow [] names
  rw [reduced_of_not_mem h, reach, List.take_nil, List.nil_append] at hreach
  exact hreach

end FilePath

namespace Workspace

open Yaml (Value)

variable {w : Workspace} {p file root : FilePath} {text : Text}
  {parse : Text → Except Yaml.Fault Value} {entries : List (Value × Value)} {s : Settings}

/-- A settings file holds a text that is read as a mapping. -/
def HoldsMapping (w : Workspace) (parse : Text → Except Yaml.Fault Value) (file : FilePath)
    (entries : List (Value × Value)) : Prop :=
  ∃ text, w.textAt file = .ok text ∧ Text.isBlank text = false ∧ parse text = .ok (.mapping entries)

/--
A settings file says nothing about any field. It is not there, or its text is
blank, or is read as null, or as a mapping with nothing under the keys.
-/
inductive Silent (w : Workspace) (parse : Text → Except Yaml.Fault Value) (file : FilePath) : Prop
  | missing {cause : FileCause} (h : w.kind file = .error (.refused cause (some file)))
      (hcause : cause.showsNothing = true)
  | blank {text : Text} (htext : w.textAt file = .ok text) (hblank : Text.isBlank text = true)
  | null {text : Text} (htext : w.textAt file = .ok text) (hnull : parse text = .ok .null)
  | mapping {text : Text} {entries : List (Value × Value)} (htext : w.textAt file = .ok text)
      (hentries : parse text = .ok (.mapping entries))
      (hunset : ∀ key : Settings.FieldKey, key.Unset entries)

theorem entriesAt_of_textAt (h : w.textAt file = .ok text) :
    w.entriesAt parse file = Settings.entriesOf parse text := by
  rw [entriesAt, entryKind?_of_textAt h, h]
  rfl

theorem entriesAt_of_holdsMapping (h : w.HoldsMapping parse file entries) :
    w.entriesAt parse file = .ok entries := by
  obtain ⟨text, htext, hblank, hparse⟩ := h
  rw [entriesAt_of_textAt htext, Settings.entriesOf, hblank, if_neg Bool.false_ne_true, hparse]
  dsimp only
  split
  · rename_i hempty
    rw [List.isEmpty_iff.1 hempty]
  · rfl

/-- Where a settings file is silent, nothing stands under the keys. -/
theorem Silent.exists_unset (h : w.Silent parse file) :
    ∃ entries, w.entriesAt parse file = .ok entries ∧
      ∀ key : Settings.FieldKey, key.Unset entries := by
  have hnone : ∀ key : Settings.FieldKey, key.Unset [] := fun _ => .inl rfl
  cases h with
  | missing h hcause =>
    refine ⟨[], ?_, hnone⟩
    rw [entriesAt, entryKind?, h]
    dsimp only
    rw [if_pos hcause]
    rfl
  | blank htext hblank =>
    refine ⟨[], ?_, hnone⟩
    rw [entriesAt_of_textAt htext, Settings.entriesOf, if_pos hblank]
  | @null text htext hnull =>
    refine ⟨[], ?_, hnone⟩
    rw [entriesAt_of_textAt htext, Settings.entriesOf, hnull]
    exact ite_self _
  | @mapping text entries htext hentries hunset =>
    cases hblank : Text.isBlank text with
    | true =>
      refine ⟨[], ?_, hnone⟩
      rw [entriesAt_of_textAt htext, Settings.entriesOf, if_pos hblank]
    | false => exact ⟨entries, entriesAt_of_holdsMapping ⟨text, htext, hblank, hentries⟩, hunset⟩

/-- A settings file about which the system can say something has no null character in its path. -/
theorem Silent.null_not_mem (h : w.Silent parse file) : '\x00' ∉ file.toText := by
  have htexts : ∀ text, w.textAt file = .ok text → '\x00' ∉ file.toText := by
    intro text htext hnull
    rw [textAt, answer, if_pos hnull] at htext
    cases htext
  cases h with
  | missing h hcause =>
    intro hnull
    rw [kind, answer, if_pos hnull] at h
    cases h
  | blank htext _ => exact htexts _ htext
  | null htext _ => exact htexts _ htext
  | mapping htext _ _ => exact htexts _ htext

/-- Settings have been loaded for the directory of a project, and are said by what stands in there. -/
theorem said_of_loadedWith (h : w.loadedWith parse p = .ok s) : w.ProjectAt p s.root ∧
    ∃ entries, w.entriesAt parse (s.root.join ⟨.here, [settingsFile]⟩) = .ok entries ∧
      Settings.Said w.homes s.root entries s := by
  obtain ⟨file, entries, hfile, hentries, hsaid⟩ := loadedWith_eq_ok_iff.1 h
  obtain ⟨root, hproject, rfl⟩ := located_eq_ok_iff.1 hfile
  rw [FilePath.parent_join] at hsaid
  obtain rfl : root = s.root := hsaid.root_eq
  exact ⟨hproject, entries, hentries, hsaid⟩

/-- The settings of a project whose settings file says nothing are the default ones. -/
theorem loadedWith_of_silent (hproject : w.ProjectAt p root)
    (h : w.Silent parse (root.join ⟨.here, [settingsFile]⟩)) :
    w.loadedWith parse p = .ok (Settings.defaults root) := by
  obtain ⟨entries, hentries, hunset⟩ := h.exists_unset
  refine loadedWith_eq_ok_iff.2
    ⟨_, entries, located_eq_ok_iff.2 ⟨root, hproject, rfl⟩, hentries, ?_⟩
  rw [FilePath.parent_join]
  exact Settings.said_of_unset hunset

/-- The directory of a project is spelled as it is read. -/
theorem ProjectAt.resolved_eq (h : w.ProjectAt p root) (hnull : '\x00' ∉ root.toText) :
    w.resolved root = .ok root := by
  have habsolute : root.isAbsolute = true := by
    rw [FilePath.isAbsolute, h.anchor_eq]
    rfl
  refine resolved_eq_ok_iff.2 ⟨hnull, root.names, .inl ⟨habsolute, rfl⟩, ?_⟩
  rw [FilePath.settle_eq_self h.not_mem, ← h.anchor_eq]

theorem run_loadDefaults (h : w.resolved root = .ok root) :
    w.run (Settings.loadDefaults root) = (.ok (Settings.defaults root), w) := by
  have hresolve := run_fromFile_of_same (w.ask_resolve root)
  rw [h] at hresolve
  exact run_bind_of_same hresolve fun _ => rfl

end Workspace

namespace Settings

open Yaml (Value)

/--
**A field of settings that have been loaded depends on its key alone, and where
nothing is said they are the default ones.** Two mappings that agree under a key
give settings that agree in its field, for one directory and with the same
homes. Where a settings file says nothing, for whatever reason, the project has
the settings that it has by default.
-/
theorem load_by_keys (parse : Text → Except Yaml.Fault Value) :
    (∀ (w₁ w₂ w₁' w₂' : Workspace) (p₁ p₂ : FilePath) (s₁ s₂ : Settings)
      (entries₁ entries₂ : List (Value × Value)),
      w₁.run (loadWith parse p₁) = (.ok s₁, w₁') → w₂.run (loadWith parse p₂) = (.ok s₂, w₂') →
      s₁.root = s₂.root → w₁.homes = w₂.homes →
      w₁.HoldsMapping parse (s₁.root.join ⟨.here, [settingsFile]⟩) entries₁ →
      w₂.HoldsMapping parse (s₂.root.join ⟨.here, [settingsFile]⟩) entries₂ →
      ∀ key : FieldKey, SameValue (field key.name entries₁) (field key.name entries₂) →
        key.Same (key.get s₁) (key.get s₂)) ∧
    ∀ (w : Workspace) (p root : FilePath), w.ProjectAt p root →
      w.Silent parse (root.join ⟨.here, [settingsFile]⟩) →
        w.run (loadWith parse p) = (.ok (defaults root), w) ∧
        w.run (loadDefaults root) = (.ok (defaults root), w) := by
  constructor
  · intro w₁ w₂ w₁' w₂' p₁ p₂ s₁ s₂ entries₁ entries₂ h₁ h₂ hroot hhomes hholds₁ hholds₂ key hkey
    rw [Workspace.run_loadWith] at h₁ h₂
    obtain ⟨-, given₁, hgiven₁, hsaid₁⟩ := Workspace.said_of_loadedWith (Prod.mk.inj h₁).1
    obtain ⟨-, given₂, hgiven₂, hsaid₂⟩ := Workspace.said_of_loadedWith (Prod.mk.inj h₂).1
    rw [Workspace.entriesAt_of_holdsMapping hholds₁] at hgiven₁
    rw [Workspace.entriesAt_of_holdsMapping hholds₂] at hgiven₂
    obtain rfl := Except.ok.inj hgiven₁
    obtain rfl := Except.ok.inj hgiven₂
    rw [← hroot, ← hhomes] at hsaid₂
    exact same_of_said hsaid₁ hsaid₂ hkey
  · intro w p root hproject hsilent
    have hnull : '\x00' ∉ root.toText :=
      mt (FilePath.null_mem_join_iff (by decide)).2 hsilent.null_not_mem
    rw [Workspace.run_loadWith, Workspace.loadedWith_of_silent hproject hsilent]
    exact ⟨rfl, Workspace.run_loadDefaults (hproject.resolved_eq hnull)⟩

/-! ## Two documents with the same patches -/

/-- Entries with patches, and with keys that are not among the other ones. -/
def firstEntries : List (Value × Value) :=
  [(.text Key.sourceDir, .text "src".toList),
    (.text Key.patches, .mapping [(.text "A.java".toList, .text "P".toList),
      (.text "B.java".toList, .text "Q".toList)]),
    (.text "colour".toList, .list [.null, .moment])]

/-- Entries with the same patches in another order. -/
def secondEntries : List (Value × Value) :=
  [(.text Key.patches, .mapping [(.text "B.java".toList, .text "Q".toList),
      (.text "A.java".toList, .text "P".toList)]),
    (.text Key.sourceSuffix, .text ".j".toList)]

/-- One text says the first entries, every other text the second ones. -/
def parseEntries (text : Text) : Except Yaml.Fault Value :=
  .ok (.mapping (if text = ['1'] then firstEntries else secondEntries))

/-- A project with a settings file of this text, and in it a directory without one. -/
def entriesWorkspace (text : Text) : Workspace where
  tree := .directory [(settingsFile, .file (Text.encode text)), ("empty".toList, .directory [])]
  standing := .at []
  homes := fun _ => none
  now := []

/-- The settings that the first entries say. -/
def firstSettings : Settings :=
  { Settings.defaults (.ofText ['/']) with
    sourceDir := .ofText "/src".toList
    patches := [("A.java".toList, "P".toList), ("B.java".toList, "Q".toList)] }

/-- The settings that the second entries say. -/
def secondSettings : Settings :=
  { Settings.defaults (.ofText ['/']) with
    sourceSuffix := ".j".toList
    patches := [("B.java".toList, "Q".toList), ("A.java".toList, "P".toList)] }

private theorem load_first : (entriesWorkspace ['1']).run (loadWith parseEntries (.ofText ['.'])) =
    (.ok firstSettings, entriesWorkspace ['1']) := by
  have hanswer : ((entriesWorkspace ['1']).loadedWith parseEntries (.ofText ['.'])).toOption =
      some firstSettings := by
    decide +kernel
  rw [Workspace.run_loadWith, eq_ok_of_toOption hanswer]

private theorem load_second : (entriesWorkspace ['2']).run (loadWith parseEntries (.ofText ['.'])) =
    (.ok secondSettings, entriesWorkspace ['2']) := by
  have hanswer : ((entriesWorkspace ['2']).loadedWith parseEntries (.ofText ['.'])).toOption =
      some secondSettings := by
    decide +kernel
  rw [Workspace.run_loadWith, eq_ok_of_toOption hanswer]

private theorem holdsMapping_first : (entriesWorkspace ['1']).HoldsMapping parseEntries
    (firstSettings.root.join ⟨.here, [settingsFile]⟩) firstEntries :=
  ⟨['1'], eq_ok_of_toOption (by decide +kernel), by decide, rfl⟩

private theorem holdsMapping_second : (entriesWorkspace ['2']).HoldsMapping parseEntries
    (secondSettings.root.join ⟨.here, [settingsFile]⟩) secondEntries :=
  ⟨['2'], eq_ok_of_toOption (by decide +kernel), by decide, rfl⟩

private theorem projectAt_empty : (entriesWorkspace ['1']).ProjectAt (.ofText "empty".toList)
    (.ofText "/empty".toList) :=
  ⟨.ofText "empty".toList, true, eq_ok_of_toOption (by decide +kernel),
    eq_ok_of_toOption (by decide +kernel), eq_ok_of_toOption (by decide +kernel)⟩

private theorem silent_empty : (entriesWorkspace ['1']).Silent parseEntries
    ((FilePath.ofText "/empty".toList).join ⟨.here, [settingsFile]⟩) := by
  have hkind : (entriesWorkspace ['1']).kind
      ((FilePath.ofText "/empty".toList).join ⟨.here, [settingsFile]⟩) =
        .error (.refused .notFound
          (some ((FilePath.ofText "/empty".toList).join ⟨.here, [settingsFile]⟩))) := rfl
  exact .missing hkind rfl

/-- The patches of both projects are the same, and the directory has the default settings. -/
theorem load_by_keys_entries :
    ((entriesWorkspace ['1']).run (loadWith parseEntries (.ofText ['.'])) =
        (.ok firstSettings, entriesWorkspace ['1']) ∧
      (entriesWorkspace ['2']).run (loadWith parseEntries (.ofText ['.'])) =
        (.ok secondSettings, entriesWorkspace ['2']) ∧
      firstSettings.root = secondSettings.root ∧
      (entriesWorkspace ['1']).homes = (entriesWorkspace ['2']).homes ∧
      (entriesWorkspace ['1']).HoldsMapping parseEntries
        (firstSettings.root.join ⟨.here, [settingsFile]⟩) firstEntries ∧
      (entriesWorkspace ['2']).HoldsMapping parseEntries
        (secondSettings.root.join ⟨.here, [settingsFile]⟩) secondEntries ∧
      SameValue (field FieldKey.patches.name firstEntries)
        (field FieldKey.patches.name secondEntries) ∧
      FieldKey.patches.Same (FieldKey.patches.get firstSettings)
        (FieldKey.patches.get secondSettings)) ∧
    (entriesWorkspace ['1']).ProjectAt (.ofText "empty".toList) (.ofText "/empty".toList) ∧
    (entriesWorkspace ['1']).Silent parseEntries
      ((FilePath.ofText "/empty".toList).join ⟨.here, [settingsFile]⟩) ∧
    (entriesWorkspace ['1']).run (loadWith parseEntries (.ofText "empty".toList)) =
      (.ok (defaults (.ofText "/empty".toList)), entriesWorkspace ['1']) ∧
    (entriesWorkspace ['1']).run (loadDefaults (.ofText "/empty".toList)) =
      (.ok (defaults (.ofText "/empty".toList)), entriesWorkspace ['1']) := by
  have hsame : SameValue (field FieldKey.patches.name firstEntries)
      (field FieldKey.patches.name secondEntries) :=
    .inr ⟨_, _, rfl, rfl, List.Perm.swap _ _ _⟩
  obtain ⟨hkeys, hdefaults⟩ := load_by_keys parseEntries
  have hpatches := hkeys _ _ _ _ _ _ _ _ _ _ load_first load_second rfl rfl holdsMapping_first
    holdsMapping_second .patches hsame
  obtain ⟨hload, hplain⟩ := hdefaults _ _ _ projectAt_empty silent_empty
  exact ⟨⟨load_first, load_second, rfl, rfl, holdsMapping_first, holdsMapping_second, hsame,
    hpatches⟩, projectAt_empty, silent_empty, hload, hplain⟩

end Settings

end TraitDoc
