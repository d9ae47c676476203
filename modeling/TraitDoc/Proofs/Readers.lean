import TraitDoc.Settings.Document
/-!
# What the readers of settings take

Each key of a settings document has a reader. A reader takes no value at all,
which leaves the default, and otherwise the values of one form; what it answers
shows the value that it took. So the readers are told by what they take, and a
reader of a list or of a mapping by what it takes for an item.

Names that are repeated are dropped. What remains is fixed by two things: which
names there are, and that they stand in the order in which each was met first.

## Main definitions

* `Settings.IsFilename` — the texts that can name a file.
* `Settings.SaysDirectory`, `Settings.SaysFilenames`, `Settings.SaysPatches`,
  `Settings.SaysSuffix` — the forms of values.
* `Settings.FirstOccurrences` — names in the order in which they were met first.

## Main statements

* `Settings.directory_eq_ok_iff`, `Settings.filenamesOf_eq_ok_iff`,
  `Settings.patchesOf_eq_ok_iff`, `Settings.suffix_eq_ok_iff` — the readers.
* `Settings.firstOccurrences_distinct` — what remains of repeated names.
-/

namespace TraitDoc

/-! ## Computations that can fail -/

theorem ok_bind {ε α β : Type} (a : α) (f : α → Except ε β) : (Except.ok a >>= f) = f a := rfl

theorem error_bind {ε α β : Type} (e : ε) (f : α → Except ε β) :
    (Except.error e >>= f) = .error e := rfl

theorem bind_eq_ok_iff {ε α β : Type} {x : Except ε α} {f : α → Except ε β} {b : β} :
    (x >>= f) = .ok b ↔ ∃ a, x = .ok a ∧ f a = .ok b := by
  cases x with
  | error e => simp [bind, Except.bind]
  | ok a => simp [bind, Except.bind]

theorem mapError_eq_ok_iff {ε η α : Type} {x : Except ε α} {f : ε → η} {a : α} :
    x.mapError f = .ok a ↔ x = .ok a := by
  cases x with
  | error e =>
    show (Except.error (f e) : Except η α) = .ok a ↔ _
    simp
  | ok b =>
    show (Except.ok b : Except η α) = .ok a ↔ _
    simp

theorem eq_ok_of_toOption {ε α : Type} {x : Except ε α} {a : α} (h : x.toOption = some a) :
    x = .ok a := by
  cases x with
  | error e => cases h
  | ok b => rw [Option.some.inj h]

/-- A list is read if each item is, and shows what has been read if each item does. -/
theorem mapM_eq_ok_iff {ε α β : Type} {f : α → Except ε β} {form : β → α} {good : β → Prop}
    (hf : ∀ a b, f a = .ok b ↔ a = form b ∧ good b) {items : List α} {made : List β} :
    items.mapM f = .ok made ↔ items = made.map form ∧ ∀ b ∈ made, good b := by
  induction items generalizing made with
  | nil =>
    cases made with
    | nil => simp [pure, Except.pure]
    | cons b made => simp [pure, Except.pure]
  | cons a items ih =>
    rw [List.mapM_cons, bind_eq_ok_iff]
    constructor
    · rintro ⟨b, hb, hlater⟩
      obtain ⟨rest, hrest, hmade⟩ := bind_eq_ok_iff.1 hlater
      obtain rfl := Except.ok.inj hmade
      obtain ⟨rfl, hgood⟩ := (hf a b).1 hb
      obtain ⟨rfl, hall⟩ := ih.1 hrest
      exact ⟨rfl, List.forall_mem_cons.2 ⟨hgood, hall⟩⟩
    · rintro ⟨heq, hall⟩
      cases made with
      | nil => cases heq
      | cons b rest =>
        obtain ⟨rfl, rfl⟩ := List.cons_eq_cons.1 heq
        obtain ⟨hgood, hrest⟩ := List.forall_mem_cons.1 hall
        exact ⟨b, (hf _ b).2 ⟨rfl, hgood⟩, bind_eq_ok_iff.2 ⟨rest, ih.2 ⟨rfl, hrest⟩, rfl⟩⟩

namespace Settings

open Yaml (Value)

variable {value : Value}

/-! ## Directories and suffixes -/

/-- Nothing, or a text that is not blank. -/
def SaysDirectory (value : Value) : Prop :=
  value = .null ∨ ∃ t, value = .text t ∧ Text.isBlank t = false

theorem directory_eq_ok_iff {homes : Homes} {root default d : FilePath} {key : Text} :
    directory homes root key default value = .ok d ↔ value = .null ∧ d = default ∨
      ∃ t p, value = .text t ∧ Text.isBlank t = false ∧
        (FilePath.ofText t).expandHome homes = .ok p ∧ d = root.join p := by
  unfold directory
  split
  · constructor
    · intro h
      exact .inl ⟨rfl, (Except.ok.inj h).symm⟩
    · rintro (⟨-, rfl⟩ | ⟨t, p, h, -⟩)
      · rfl
      · cases h
  · rename_i t
    constructor
    · intro h
      split at h
      · cases h
      · rename_i hblank
        split at h
        · rename_i p hp
          exact .inr ⟨t, p, rfl, Bool.eq_false_iff.2 hblank, hp, (Except.ok.inj h).symm⟩
        · cases h
    · rintro (⟨h, -⟩ | ⟨u, p, h, hblank, hp, rfl⟩)
      · cases h
      · obtain rfl := Value.text.inj h
        rw [hblank, if_neg Bool.false_ne_true, hp]
  · rename_i hnull htext
    constructor
    · intro h
      cases h
    · rintro (⟨h, -⟩ | ⟨t, p, h, -⟩)
      · exact absurd h hnull
      · exact absurd h (htext t)

/-- Nothing, or a text that begins with a dot. -/
def SaysSuffix (value : Value) : Prop :=
  value = .null ∨ ∃ t, value = .text t ∧ t.head? = some '.'

theorem suffix_eq_ok_iff {key default t : Text} :
    suffix key default value = .ok t ↔
      value = .null ∧ t = default ∨ value = .text t ∧ t.head? = some '.' := by
  unfold suffix
  split
  · constructor
    · intro h
      exact .inl ⟨rfl, (Except.ok.inj h).symm⟩
    · rintro (⟨-, rfl⟩ | ⟨h, -⟩)
      · rfl
      · cases h
  · rename_i u
    by_cases hdot : u.head? = some '.'
    · rw [if_pos hdot]
      constructor
      · intro h
        obtain rfl := Except.ok.inj h
        exact .inr ⟨rfl, hdot⟩
      · rintro (⟨h, -⟩ | ⟨h, -⟩)
        · cases h
        · rw [Value.text.inj h]
    · rw [if_neg hdot]
      constructor
      · intro h
        cases h
      · rintro (⟨h, -⟩ | ⟨h, ht⟩)
        · cases h
        · rw [Value.text.inj h] at hdot
          exact absurd ht hdot
  · rename_i hnull htext
    constructor
    · intro h
      cases h
    · rintro (⟨h, -⟩ | ⟨h, -⟩)
      · exact absurd h hnull
      · exact absurd h (htext t)

/-! ## Repeated names -/

/-- Names without repetitions, in the order in which they were met first. -/
structure FirstOccurrences (given kept : List Text) : Prop where
  mem_iff : ∀ name, name ∈ kept ↔ name ∈ given
  ordered : kept.Pairwise fun a b => given.idxOf a < given.idxOf b

/-- One more name that is given is kept at the end, unless it has been kept already. -/
theorem FirstOccurrences.snoc {given kept : List Text} (h : FirstOccurrences given kept)
    (name : Text) :
    FirstOccurrences (given ++ [name]) (if name ∈ kept then kept else kept ++ [name]) := by
  -- a name at the end moves none of the names before it
  have hkept : kept.Pairwise fun a b =>
      (given ++ [name]).idxOf a < (given ++ [name]).idxOf b := by
    refine h.ordered.imp_of_mem fun ha hb hlt => ?_
    rw [List.idxOf_append, if_pos ((h.mem_iff _).1 ha), List.idxOf_append,
      if_pos ((h.mem_iff _).1 hb)]
    exact hlt
  split
  · rename_i hold
    refine ⟨fun other => ?_, hkept⟩
    rw [List.mem_append, List.mem_singleton, h.mem_iff]
    constructor
    · exact .inl
    · rintro (hin | rfl)
      · exact hin
      · exact (h.mem_iff _).1 hold
  · rename_i hnew
    rw [h.mem_iff] at hnew
    refine ⟨fun other => by rw [List.mem_append, List.mem_append, h.mem_iff], ?_⟩
    refine List.pairwise_append.2 ⟨hkept, List.pairwise_singleton _ _, fun a ha b hb => ?_⟩
    have hgiven : a ∈ given := (h.mem_iff a).1 ha
    have hlt := List.idxOf_lt_length_of_mem hgiven
    rw [List.mem_singleton.1 hb, List.idxOf_append, if_pos hgiven, List.idxOf_append, if_neg hnew]
    omega

private theorem firstOccurrences_foldl {names : List Text} :
    ∀ {given kept : List Text}, FirstOccurrences given kept →
      FirstOccurrences (given ++ names)
        (names.foldl (fun done name => if name ∈ done then done else done ++ [name]) kept) := by
  induction names with
  | nil =>
    intro given kept h
    rw [List.append_nil]
    exact h
  | cons name names ih =>
    intro given kept h
    rw [List.append_cons]
    exact ih (h.snoc name)

/-- What remains of repeated names are their first occurrences. -/
theorem firstOccurrences_distinct (given : List Text) :
    FirstOccurrences given (distinct given) := by
  have hnone : FirstOccurrences [] [] := ⟨fun _ => Iff.rfl, .nil⟩
  exact firstOccurrences_foldl hnone

/-! ## Filenames and patches -/

/-- A text that can name a file: it is not blank and does not begin at the root. -/
def IsFilename (name : Text) : Prop := Text.isBlank name = false ∧ name.head? ≠ some '/'

theorem filename_eq_ok_iff {name : Text} :
    filename value = .ok name ↔ value = .text name ∧ IsFilename name := by
  unfold filename IsFilename
  split
  · rename_i t
    constructor
    · intro h
      split at h
      · cases h
      · rename_i hblank
        split at h
        · cases h
        · rename_i hslash
          obtain rfl := Except.ok.inj h
          exact ⟨rfl, Bool.eq_false_iff.2 hblank, hslash⟩
    · rintro ⟨h, hblank, hslash⟩
      rw [Value.text.inj h, hblank, if_neg Bool.false_ne_true, if_neg hslash]
  · rename_i htext
    constructor
    · intro h
      cases h
    · intro h
      exact absurd h.1 (htext name)

/-- Nothing, or a list of texts that can name files. -/
def SaysFilenames (value : Value) : Prop :=
  value = .null ∨ ∃ names : List Text, value = .list (names.map .text) ∧
    ∀ name ∈ names, IsFilename name

theorem filenamesOf_eq_ok_iff {names : List Text} :
    filenamesOf value = .ok names ↔ value = .null ∧ names = Default.filenames ∨
      ∃ given : List Text, value = .list (given.map .text) ∧
        (∀ name ∈ given, IsFilename name) ∧ names = distinct given := by
  unfold filenamesOf
  split
  · constructor
    · intro h
      exact .inl ⟨rfl, (Except.ok.inj h).symm⟩
    · rintro (⟨-, rfl⟩ | ⟨given, h, -⟩)
      · rfl
      · cases h
  · rename_i items
    constructor
    · intro h
      cases hitems : items.mapM filename with
      | error fault =>
        rw [hitems] at h
        cases h
      | ok given =>
        rw [hitems] at h
        obtain ⟨rfl, hall⟩ := (mapM_eq_ok_iff fun _ _ => filename_eq_ok_iff).1 hitems
        exact .inr ⟨given, rfl, hall, (Except.ok.inj h).symm⟩
    · rintro (⟨h, -⟩ | ⟨given, h, hall, rfl⟩)
      · cases h
      · have hitems : items.mapM filename = .ok given :=
          (mapM_eq_ok_iff fun _ _ => filename_eq_ok_iff).2 ⟨Value.list.inj h, hall⟩
        rw [hitems]
        rfl
  · rename_i hnull hlist
    constructor
    · intro h
      cases h
    · rintro (⟨h, -⟩ | ⟨given, h, -⟩)
      · exact absurd h hnull
      · exact absurd h (hlist _)

/-- An entry of a mapping that gives a patch. -/
def patchEntry (patch : Text × Text) : Value × Value := (.text patch.1, .text patch.2)

theorem patch_eq_ok_iff {entry : Value × Value} {made : Text × Text} :
    patch entry = .ok made ↔ entry = patchEntry made ∧ True := by
  rw [and_true]
  unfold patch patchEntry
  split
  · rename_i name literal
    constructor
    · intro h
      obtain rfl := Except.ok.inj h
      rfl
    · intro h
      obtain ⟨hname, hliteral⟩ := Prod.mk.inj h
      rw [Value.text.inj hname, Value.text.inj hliteral]
  · rename_i htexts
    constructor
    · intro h
      cases h
    · intro h
      exact absurd h (htexts made.1 made.2)

/-- Nothing, or a mapping of texts to texts. -/
def SaysPatches (value : Value) : Prop :=
  value = .null ∨ ∃ patches : List (Text × Text), value = .mapping (patches.map patchEntry)

theorem patchesOf_eq_ok_iff {patches : List (Text × Text)} :
    patchesOf value = .ok patches ↔ value = .null ∧ patches = Default.patches ∨
      value = .mapping (patches.map patchEntry) := by
  unfold patchesOf
  split
  · constructor
    · intro h
      exact .inl ⟨rfl, (Except.ok.inj h).symm⟩
    · rintro (⟨-, rfl⟩ | h)
      · rfl
      · cases h
  · rename_i entries
    rw [mapM_eq_ok_iff fun _ _ => patch_eq_ok_iff]
    simp
  · rename_i hnull hmapping
    constructor
    · intro h
      cases h
    · rintro (⟨h, -⟩ | h)
      · exact absurd h hnull
      · exact absurd h (hmapping _)

end Settings

end TraitDoc
