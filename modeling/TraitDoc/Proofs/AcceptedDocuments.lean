import TraitDoc.Proofs.Loading
import TraitDoc.Proofs.OnTheWay
/-!
# Which documents are accepted

A settings document is documented if it is null, or if it is a mapping with a
value of the right form under each of the six keys, as far as there is a value.
Each reader checks the form of its value, and what it refuses is a fault of the
settings; so a mapping is accepted exactly if it is a documented one.

At the root it is not the form that is checked first, but whether the document
counts as nothing. That is true of null and of the mapping without entries, but
of other documents too: the empty list, the empty text, zero and false among
them. They are not documented, and are taken for a mapping without entries.

Home directories are the system's matter. Whether they can be found is assumed
of those that a document names.

## Main definitions

* `Settings.Documented`, `Settings.DocumentedRoot`, `Settings.DocumentedText` —
  entries, documents and texts that are documented.
* `Settings.IsStray` — what counts as nothing, and is neither null nor a mapping.
* `Checks` — a computation that succeeds under a condition, and only then.

## Main statements

* `Settings.checks_ofEntries`, `Settings.checks_ofDocument`, `Settings.checks_ofText` —
  under which condition entries, documents and texts are accepted.
* `Settings.load_accepts_iff` — which settings files are accepted.
* `Settings.load_accepts_undocumented` — not only the documented ones.
-/

namespace TraitDoc

/-! ## Checking -/

/-- A computation succeeds if a condition holds, and otherwise is a fault of the settings. -/
structure Checks {α : Type} (good : Prop) (x : Except Failure α) : Prop where
  accepts : good → ∃ a, x = .ok a
  refuses : ¬ good → ∃ fault, x = .error (.settings fault)

namespace Checks

variable {α β : Type} {good other : Prop} {x : Except Failure α}

theorem ok {good : Prop} (hgood : good) (a : α) : Checks good (.ok a : Except Failure α) :=
  ⟨fun _ => ⟨a, rfl⟩, fun hnot => absurd hgood hnot⟩

theorem error {good : Prop} (hnot : ¬ good) (fault : SettingsFault) :
    Checks good (.error (.settings fault) : Except Failure α) :=
  ⟨fun hgood => absurd hgood hnot, fun _ => ⟨fault, rfl⟩⟩

theorem congr (h : Checks good x) (hiff : good ↔ other) : Checks other x :=
  ⟨fun hother => h.accepts (hiff.2 hother), fun hnot => h.refuses fun hgood => hnot (hiff.1 hgood)⟩

/-- Two checks, one after the other, check both conditions. -/
theorem bind {f : α → Except Failure β} (hx : Checks good x) (hf : ∀ a, Checks other (f a)) :
    Checks (good ∧ other) (x >>= f) := by
  constructor
  · intro h
    obtain ⟨a, ha⟩ := hx.accepts h.1
    obtain ⟨b, hb⟩ := (hf a).accepts h.2
    exact ⟨b, by rw [ha, ok_bind, hb]⟩
  · intro h
    by_cases hgood : good
    · obtain ⟨a, ha⟩ := hx.accepts hgood
      obtain ⟨fault, hfault⟩ := (hf a).refuses fun hother => h ⟨hgood, hother⟩
      exact ⟨fault, by rw [ha, ok_bind, hfault]⟩
    · obtain ⟨fault, hfault⟩ := hx.refuses hgood
      exact ⟨fault, by rw [hfault, error_bind]⟩

/-- Where all faults are those of the settings, it is enough to say what is accepted. -/
theorem mapError {x : Except SettingsFault α} (h : (∃ a, x = .ok a) ↔ good) :
    Checks good (x.mapError .settings) := by
  cases x with
  | ok a => exact ok (h.1 ⟨a, rfl⟩) a
  | error fault =>
    refine error (fun hgood => ?_) fault
    obtain ⟨a, ha⟩ := h.2 hgood
    cases ha

theorem exists_ok_iff (h : Checks good x) : (∃ a, x = .ok a) ↔ good := by
  refine ⟨fun hok => ?_, h.accepts⟩
  by_cases hgood : good
  · exact hgood
  · obtain ⟨fault, hfault⟩ := h.refuses hgood
    obtain ⟨a, ha⟩ := hok
    rw [hfault] at ha
    cases ha

end Checks

namespace Settings

open Yaml (Value)

variable {homes : Homes} {value v : Value} {entries : List (Value × Value)}

/-! ## The entries of a mapping -/

/-- A home directory that a value names at its beginning can be found. -/
def HomeFound (homes : Homes) (value : Value) : Prop :=
  ∀ t, value = .text t → ∃ q, (FilePath.ofText t).expandHome homes = .ok q

/-- Each key that there is has a value of its form. -/
structure Documented (entries : List (Value × Value)) : Prop where
  sourceDir : SaysDirectory (field Key.sourceDir entries)
  targetDir : SaysDirectory (field Key.targetDir entries)
  filenames : SaysFilenames (field Key.filenames entries)
  patches : SaysPatches (field Key.patches entries)
  sourceSuffix : SaysSuffix (field Key.sourceSuffix entries)
  targetSuffix : SaysSuffix (field Key.targetSuffix entries)

theorem checks_directory (hhome : HomeFound homes value) (root default : FilePath) (key : Text) :
    Checks (SaysDirectory value) (directory homes root key default value) := by
  constructor
  · rintro (rfl | ⟨t, rfl, hblank⟩)
    · exact ⟨default, directory_eq_ok_iff.2 (.inl ⟨rfl, rfl⟩)⟩
    · obtain ⟨q, hq⟩ := hhome t rfl
      exact ⟨root.join q, directory_eq_ok_iff.2 (.inr ⟨t, q, rfl, hblank, hq, rfl⟩)⟩
  · intro hnot
    cases value with
    | null => exact absurd (.inl rfl) hnot
    | text t =>
      cases hblank : Text.isBlank t with
      | true => exact ⟨.noDirectory key, by rw [directory, if_pos hblank]⟩
      | false => exact absurd (.inr ⟨t, rfl, hblank⟩) hnot
    | _ => exact ⟨.noDirectory key, rfl⟩

theorem exists_filenamesOf_iff :
    (∃ names, filenamesOf value = .ok names) ↔ SaysFilenames value := by
  constructor
  · rintro ⟨names, h⟩
    rcases filenamesOf_eq_ok_iff.1 h with ⟨hnull, -⟩ | ⟨given, hgiven, hall, -⟩
    · exact .inl hnull
    · exact .inr ⟨given, hgiven, hall⟩
  · rintro (hnull | ⟨given, hgiven, hall⟩)
    · exact ⟨_, filenamesOf_eq_ok_iff.2 (.inl ⟨hnull, rfl⟩)⟩
    · exact ⟨_, filenamesOf_eq_ok_iff.2 (.inr ⟨given, hgiven, hall, rfl⟩)⟩

theorem exists_patchesOf_iff :
    (∃ patches, patchesOf value = .ok patches) ↔ SaysPatches value := by
  constructor
  · rintro ⟨patches, h⟩
    rcases patchesOf_eq_ok_iff.1 h with ⟨hnull, -⟩ | hgiven
    · exact .inl hnull
    · exact .inr ⟨patches, hgiven⟩
  · rintro (hnull | ⟨patches, hgiven⟩)
    · exact ⟨_, patchesOf_eq_ok_iff.2 (.inl ⟨hnull, rfl⟩)⟩
    · exact ⟨_, patchesOf_eq_ok_iff.2 (.inr hgiven)⟩

theorem exists_suffix_iff {key default : Text} :
    (∃ t, suffix key default value = .ok t) ↔ SaysSuffix value := by
  constructor
  · rintro ⟨t, h⟩
    rcases suffix_eq_ok_iff.1 h with ⟨hnull, -⟩ | hgiven
    · exact .inl hnull
    · exact .inr ⟨t, hgiven⟩
  · rintro (hnull | ⟨t, hgiven⟩)
    · exact ⟨_, suffix_eq_ok_iff.2 (.inl ⟨hnull, rfl⟩)⟩
    · exact ⟨_, suffix_eq_ok_iff.2 (.inr hgiven)⟩

/-- The entries of a mapping are accepted if they are documented, and only then. -/
theorem checks_ofEntries (hsource : HomeFound homes (field Key.sourceDir entries))
    (htarget : HomeFound homes (field Key.targetDir entries)) (root : FilePath) :
    Checks (Documented entries) (ofEntries homes root entries) := by
  have hall : Checks (SaysDirectory (field Key.sourceDir entries) ∧
      SaysDirectory (field Key.targetDir entries) ∧ SaysFilenames (field Key.filenames entries) ∧
      SaysPatches (field Key.patches entries) ∧ SaysSuffix (field Key.sourceSuffix entries) ∧
      SaysSuffix (field Key.targetSuffix entries) ∧ True) (ofEntries homes root entries) := by
    unfold ofEntries
    refine (checks_directory hsource _ _ _).bind fun _ => ?_
    refine (checks_directory htarget _ _ _).bind fun _ => ?_
    refine (Checks.mapError exists_filenamesOf_iff).bind fun _ => ?_
    refine (Checks.mapError exists_patchesOf_iff).bind fun _ => ?_
    refine (Checks.mapError exists_suffix_iff).bind fun _ => ?_
    exact (Checks.mapError exists_suffix_iff).bind fun _ => .ok trivial _
  refine hall.congr ⟨?_, ?_⟩
  · rintro ⟨hsourceDir, htargetDir, hfilenames, hpatches, hsourceSuffix, htargetSuffix, -⟩
    exact ⟨hsourceDir, htargetDir, hfilenames, hpatches, hsourceSuffix, htargetSuffix⟩
  · intro h
    exact ⟨h.sourceDir, h.targetDir, h.filenames, h.patches, h.sourceSuffix, h.targetSuffix,
      trivial⟩

/-! ## Documents -/

/-- A document is documented: it is null, or a mapping whose entries are. -/
def DocumentedRoot (v : Value) : Prop :=
  v = .null ∨ ∃ entries, v = .mapping entries ∧ Documented entries

/-- A document is neither null nor a mapping, but counts as nothing. -/
def IsStray (v : Value) : Prop :=
  v.isEmpty = true ∧ v ≠ .null ∧ ∀ entries, v ≠ .mapping entries

/-- The documents that are neither null nor a mapping, but count as nothing. -/
theorem isStray_iff : IsStray v ↔ v = .boolean false ∨ v = .number true ∨ v = .bytes true ∨
    v = .text [] ∨ v = .list [] ∨ v = .set [] := by
  unfold IsStray
  cases v <;> simp [Value.isEmpty]

/-- The home directories that a document names can be found. -/
def HomesFound (homes : Homes) (v : Value) : Prop :=
  ∀ entries, v = .mapping entries →
    HomeFound homes (field Key.sourceDir entries) ∧ HomeFound homes (field Key.targetDir entries)

theorem documented_nil : Documented [] :=
  ⟨.inl rfl, .inl rfl, .inl rfl, .inl rfl, .inl rfl, .inl rfl⟩

/-- What counts as nothing is documented, or stray. -/
theorem documented_or_stray_of_isEmpty (h : v.isEmpty = true) : DocumentedRoot v ∨ IsStray v := by
  by_cases hnull : v = .null
  · exact .inl (.inl hnull)
  · by_cases hmapping : ∃ entries, v = .mapping entries
    · obtain ⟨entries, rfl⟩ := hmapping
      have hnil : entries = [] := List.isEmpty_iff.1 h
      exact .inl (.inr ⟨[], congrArg Value.mapping hnil, documented_nil⟩)
    · exact .inr ⟨h, hnull, fun entries hentries => hmapping ⟨entries, hentries⟩⟩

/-- A document is accepted if it is documented or stray, and only then. -/
theorem checks_ofDocument (hhomes : HomesFound homes v) (root : FilePath) :
    Checks (DocumentedRoot v ∨ IsStray v) (ofDocument homes root v) := by
  unfold ofDocument
  split
  · rename_i hempty
    rw [ofEntries_nil]
    exact .ok (documented_or_stray_of_isEmpty hempty) _
  · rename_i hfull
    have hnull : v ≠ .null := by
      rintro rfl
      exact hfull rfl
    split
    · rename_i entries
      obtain ⟨hsource, htarget⟩ := hhomes entries rfl
      refine (checks_ofEntries hsource htarget root).congr ⟨fun h => .inl (.inr ⟨_, rfl, h⟩), ?_⟩
      rintro ((h | ⟨_, h, hdocumented⟩) | hstray)
      · exact absurd h hnull
      · rw [Value.mapping.inj h]
        exact hdocumented
      · exact absurd rfl (hstray.2.2 entries)
    · rename_i hmapping
      refine .error ?_ .noMapping
      rintro ((h | ⟨entries, h, -⟩) | hstray)
      · exact hnull h
      · exact hmapping entries h
      · exact hfull hstray.1

/-! ## Texts -/

section

variable {parse : Text → Except Yaml.Fault Value} {text : Text}

/-- A text is blank, or is read as a document that is documented. -/
def DocumentedText (parse : Text → Except Yaml.Fault Value) (text : Text) : Prop :=
  Text.isBlank text = true ∨ ∃ v, parse text = .ok v ∧ DocumentedRoot v

/-- A text is read as a document that is neither null nor a mapping, but counts as nothing. -/
def StrayText (parse : Text → Except Yaml.Fault Value) (text : Text) : Prop :=
  Text.isBlank text = false ∧ ∃ v, parse text = .ok v ∧ IsStray v

/-- A text is blank, or is read as a document, and the home directories in it can be found. -/
def Readable (parse : Text → Except Yaml.Fault Value) (homes : Homes) (text : Text) : Prop :=
  Text.isBlank text = true ∨ ∃ v, parse text = .ok v ∧ HomesFound homes v

/-- A text is accepted if it is documented or stray, and only then. -/
theorem checks_ofText (h : Readable parse homes text) (root : FilePath) :
    Checks (DocumentedText parse text ∨ StrayText parse text) (ofText parse homes root text) := by
  unfold ofText
  by_cases hblank : Text.isBlank text = true
  · rw [if_pos hblank, ofEntries_nil]
    exact .ok (.inl (.inl hblank)) _
  · rw [if_neg hblank]
    obtain ⟨v, hv, hhomes⟩ := h.resolve_left hblank
    rw [hv]
    refine (checks_ofDocument hhomes root).congr ⟨?_, ?_⟩
    · rintro (hdocumented | hstray)
      · exact .inl (.inr ⟨v, hv, hdocumented⟩)
      · exact .inr ⟨Bool.eq_false_iff.2 hblank, v, hv, hstray⟩
    · rintro ((h | ⟨u, hu, hdocumented⟩) | ⟨-, u, hu, hstray⟩)
      · exact absurd h hblank
      · rw [Except.ok.inj (hv.symm.trans hu)]
        exact .inl hdocumented
      · rw [Except.ok.inj (hv.symm.trans hu)]
        exact .inr hstray

/-- A stray text leaves all at the default. -/
theorem ofText_of_stray (h : StrayText parse text) (homes : Homes) (root : FilePath) :
    ofText parse homes root text = .ok (defaults root) := by
  obtain ⟨hblank, v, hv, hempty, -⟩ := h
  rw [ofText, hblank, if_neg Bool.false_ne_true, hv]
  show ofDocument homes root v = _
  unfold ofDocument
  rw [if_pos hempty, ofEntries_nil]

end

end Settings

/-! ## Settings files -/

namespace Workspace

variable {w : Workspace} {p file : FilePath} {text : Text}

/-- A path from which a text is read leads to a file. -/
theorem entryKind?_of_textAt (h : w.textAt file = .ok text) :
    w.entryKind? file = .ok (some .file) := by
  unfold textAt at h
  split at h
  · cases h
  · rename_i bytes hbytes
    obtain ⟨hnull, hread⟩ := answer_eq_ok_iff.1 hbytes
    have hfind : FileTree.find w.tree w.standing file = .ok (.file bytes) := by
      unfold FileTree.read at hread
      obtain ⟨found, hfound, hcontent⟩ := bind_eq_ok_iff.1 hread
      cases found with
      | file content => rw [hfound, Except.ok.inj hcontent]
      | directory entries => cases hcontent
    rw [entryKind?, kind, answer_of_not_mem hnull, hfind]
    rfl

/-- Where the settings file holds a text, loading answers what the text says. -/
theorem loadedWith_of_textAt {parse : Text → Except Yaml.Fault Yaml.Value}
    (hfile : w.located p = .ok file) (htext : w.textAt file = .ok text) :
    w.loadedWith parse p = Settings.ofText parse w.homes file.parent text := by
  rw [loadedWith, hfile, ok_bind, loadedFrom, entryKind?_of_textAt htext, htext]
  rfl

end Workspace

namespace Settings

open Yaml (Value)

/--
**A settings file with a text that can be read is accepted if it is documented,
or stray, and only then.** All else is refused with a fault of the settings.
What is stray is taken for a mapping without entries.
-/
theorem load_accepts_iff {parse : Text → Except Yaml.Fault Value} {p file : FilePath} {text : Text}
    {w : Workspace} (hfile : w.located p = .ok file) (htext : w.textAt file = .ok text)
    (hread : Readable parse w.homes text) :
    ((∃ s, w.run (loadWith parse p) = (.ok s, w)) ↔
      DocumentedText parse text ∨ StrayText parse text) ∧
    (¬ DocumentedText parse text → ¬ StrayText parse text →
      ∃ fault, w.run (loadWith parse p) = (.error (.settings fault), w)) ∧
    (StrayText parse text → w.run (loadWith parse p) = (.ok (defaults file.parent), w)) := by
  have hchecks := checks_ofText hread file.parent
  rw [Workspace.run_loadWith, Workspace.loadedWith_of_textAt hfile htext]
  refine ⟨?_, fun hdocumented hstray => ?_, fun hstray => ?_⟩
  · rw [← hchecks.exists_ok_iff]
    simp
  · obtain ⟨fault, hfault⟩ := hchecks.refuses (not_or.2 ⟨hdocumented, hstray⟩)
    exact ⟨fault, by rw [hfault]⟩
  · rw [ofText_of_stray hstray]

/-! ## An empty list -/

/-- A project whose settings file says an empty list. -/
def listWorkspace : Workspace where
  tree := .directory [(settingsFile, .file (Text.encode "[]\n".toList))]
  standing := .at []
  homes := fun _ => none
  now := []

private theorem located_list :
    listWorkspace.located (.ofText ['.']) = .ok ⟨.root, [settingsFile]⟩ := by
  apply eq_ok_of_toOption
  decide +kernel

private theorem textAt_list :
    listWorkspace.textAt ⟨.root, [settingsFile]⟩ = .ok "[]\n".toList := by
  apply eq_ok_of_toOption
  decide +kernel

/-- Whether a text has been read as an empty list. -/
def isEmptyList : Except Yaml.Fault Value → Bool
  | .ok (.list []) => true
  | _ => false

theorem eq_of_isEmptyList {answer : Except Yaml.Fault Value} (h : isEmptyList answer = true) :
    answer = .ok (.list []) := by
  unfold isEmptyList at h
  split at h
  · rfl
  · cases h

private theorem read_list : Yaml.read documentDepth "[]\n".toList = .ok (.list []) := by
  apply eq_of_isEmptyList
  decide +kernel

private theorem readable_list :
    Readable (Yaml.read documentDepth) listWorkspace.homes "[]\n".toList :=
  .inr ⟨.list [], read_list, fun entries h => by cases h⟩

private theorem stray_list : StrayText (Yaml.read documentDepth) "[]\n".toList :=
  ⟨by decide, .list [], read_list, isStray_iff.2 (by simp)⟩

private theorem not_documented_list :
    ¬ DocumentedText (Yaml.read documentDepth) "[]\n".toList := by
  rintro (hblank | ⟨v, hv, hdocumented⟩)
  · exact absurd hblank (by decide)
  · obtain rfl := Except.ok.inj (read_list.symm.trans hv)
    rcases hdocumented with hnull | ⟨entries, hmapping, -⟩
    · cases hnull
    · cases hmapping

/-- Both conditions for a settings file that says an empty list. -/
theorem load_accepts_iff_list :
    listWorkspace.located (.ofText ['.']) = .ok ⟨.root, [settingsFile]⟩ ∧
    listWorkspace.textAt ⟨.root, [settingsFile]⟩ = .ok "[]\n".toList ∧
    Readable (Yaml.read documentDepth) listWorkspace.homes "[]\n".toList ∧
    ((∃ s, listWorkspace.run (load (.ofText ['.'])) = (.ok s, listWorkspace)) ↔
      DocumentedText (Yaml.read documentDepth) "[]\n".toList ∨
        StrayText (Yaml.read documentDepth) "[]\n".toList) ∧
    listWorkspace.run (load (.ofText ['.'])) = (.ok (defaults ⟨.root, []⟩), listWorkspace) := by
  obtain ⟨hiff, -, hdefaults⟩ := load_accepts_iff located_list textAt_list readable_list
  exact ⟨located_list, textAt_list, readable_list, hiff, hdefaults stray_list⟩

/-- A settings file can be accepted that is not documented. -/
theorem load_accepts_undocumented :
    ¬ ∀ (parse : Text → Except Yaml.Fault Value) (p file : FilePath) (text : Text) (w : Workspace),
      w.located p = .ok file → w.textAt file = .ok text → Readable parse w.homes text →
        ((∃ s, w.run (loadWith parse p) = (.ok s, w)) ↔ DocumentedText parse text) := by
  intro haccepts
  have hloaded : listWorkspace.loadedWith (Yaml.read documentDepth) (.ofText ['.']) =
      .ok (defaults ⟨.root, []⟩) := by
    rw [Workspace.loadedWith_of_textAt located_list textAt_list,
      ofText_of_stray stray_list]
    rfl
  have hrun : listWorkspace.run (loadWith (Yaml.read documentDepth) (.ofText ['.'])) =
      (.ok (defaults ⟨.root, []⟩), listWorkspace) := by
    rw [Workspace.run_loadWith, hloaded]
  exact not_documented_list
    ((haccepts _ _ _ _ _ located_list textAt_list readable_list).1 ⟨_, hrun⟩)

end Settings

end TraitDoc
