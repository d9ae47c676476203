import TraitDoc.Proofs.Growth
/-!
# Where paths lead

In a tree without links a path leads to one place at most, whatever the tree
holds: to the place that its names spell from where the walk begins, each `..`
taking back the name before it. The tree only decides whether the walk can be
made, for each name but the last must lead to a directory that is there.

So a path leads where it leads as long as nothing is removed, and what is put
there through the path is found there through the path. The second half needs
that the program stands in a directory of the tree. A path without names leads
to where the program stands without a look at the tree; every other one has been
followed through a directory that is there.

## Main definitions

* `FilePath.place?` — the place that a path spells.
* `FileTree.Keeps` — nothing has been removed, or replaced by what is not of its kind.
* `FileTree.Carries` — where the program stands is in the tree.
* `FileTree.EntryPut` — one entry has been put where a path leads.

## Main statements

* `FileTree.target_eq_some_iff` — when a path leads somewhere, and where.
* `FileTree.place?_of_target` — a path leads to the place that it spells.
* `FileTree.find_eq_ok_iff` — what is found where a path leads.
* `FileTree.Keeps.target` — a path keeps leading where it leads.
* `FileTree.entryPut_of_makeDirectory`, `FileTree.entryPut_of_write` — what the
  operations that a run uses do to a tree.
-/

namespace TraitDoc

namespace FileTree

/-! ## Above an entry -/

theorem at?_append (t : FileTree) (place rest : Place) :
    t.at? (place ++ rest) = (t.at? place).bind fun sub => sub.at? rest := by
  induction place generalizing t with
  | nil => rfl
  | cons name place ih =>
    rw [List.cons_append, at?, at?]
    cases t.child? name with
    | none => rfl
    | some sub => exact ih sub

/-- Whatever is above an entry is a directory. -/
theorem entry?_eq_directory_of_append {t : FileTree} {place rest : Place} (hrest : rest ≠ [])
    (h : t.entry? (place ++ rest) ≠ none) : t.entry? place = some .directory := by
  unfold entry? at h ⊢
  rw [at?_append] at h
  cases hsub : t.at? place with
  | none =>
    rw [hsub] at h
    exact absurd rfl h
  | some sub =>
    rw [hsub] at h
    by_cases htop : sub.top = .directory
    · exact congrArg some htop
    · exact absurd (entry?_eq_none_of_top htop hrest) h

/-- The directory above a directory, which at the root is the root. -/
theorem entry?_dropLast {t : FileTree} {place : Place} (h : t.entry? place = some .directory) :
    t.entry? place.dropLast = some .directory := by
  by_cases hnil : place = []
  · rw [hnil] at h ⊢
    exact h
  · have hsplit : t.entry? (place.dropLast ++ [place.getLast hnil]) ≠ none := by
      rw [List.dropLast_concat_getLast hnil, h]
      simp
    exact entry?_eq_directory_of_append (List.cons_ne_nil _ _) hsplit

theorem at?_of_entry?_eq_directory {t : FileTree} {place : Place}
    (h : t.entry? place = some .directory) :
    ∃ entries, t.at? place = some (.directory entries) := by
  unfold entry? at h
  cases hsub : t.at? place with
  | none =>
    rw [hsub] at h
    cases h
  | some sub =>
    rw [hsub] at h
    cases sub with
    | file content => cases h
    | directory entries => exact ⟨entries, rfl⟩

/-! ## Steps and walks -/

/-- A name can be followed out of a directory, if it is not too long, and leads where it spells. -/
theorem step_eq_ok_iff {t : FileTree} {place next : Place} {name : Text} :
    t.step place name = .ok next ↔ t.entry? place = some .directory ∧
      (name = FilePath.parentName ∨ name.byteLength ≤ nameLimit) ∧
      next = FilePath.follow place name := by
  rw [step, entry?, FilePath.follow]
  cases t.at? place with
  | none => simp
  | some sub =>
    cases sub with
    | file content => simp [top]
    | directory entries =>
      by_cases hname : name = FilePath.parentName
      · simp [hname, top, eq_comm]
      · by_cases hlong : nameLimit < name.byteLength
        · simp [hname, hlong, Nat.not_le.2 hlong]
        · simp [hname, hlong, Nat.le_of_not_lt hlong, top, eq_comm]

theorem walk_cons_eq_ok_iff {t : FileTree} {place last : Place} {name : Text} {rest : List Text} :
    t.walk place (name :: rest) = .ok last ↔
      t.step place name = .ok (FilePath.follow place name) ∧
      t.entry? (FilePath.follow place name) ≠ none ∧
      t.walk (FilePath.follow place name) rest = .ok last := by
  rw [walk]
  cases hstep : t.step place name with
  | error cause => simp [bind, Except.bind]
  | ok next =>
    rw [(step_eq_ok_iff.1 hstep).2.2, entry?]
    cases hthere : t.at? (FilePath.follow place name) with
    | none => simp [hthere, bind, Except.bind, throw, throwThe, MonadExceptOf.throw]
    | some sub => simp [hthere, bind, Except.bind]

/-- A walk leads to the place that its names spell. -/
theorem eq_foldl_of_walk {t : FileTree} {names : List Text} {place last : Place}
    (h : t.walk place names = .ok last) : last = names.foldl FilePath.follow place := by
  induction names generalizing place with
  | nil => exact (Except.ok.inj h).symm
  | cons name names ih => exact ih (walk_cons_eq_ok_iff.1 h).2.2

/-! ## Paths -/

/--
The names lead from a directory to a place: all but the last to something that
is there, the last to a place in a directory that is there.
-/
def Leads (t : FileTree) (first : Place) (names : List Text) (place : Place) : Prop :=
  (names = [] ∧ place = first) ∨ ∃ front last dir, names = front ++ [last] ∧
    t.walk first front = .ok dir ∧ t.step dir last = .ok place

theorem leads_nil_iff {t : FileTree} {first place : Place} :
    t.Leads first [] place ↔ place = first := by
  simp [Leads]

theorem leads_append_singleton_iff {t : FileTree} {first place : Place} {front : List Text}
    {last : Text} : t.Leads first (front ++ [last]) place ↔
      ∃ dir, t.walk first front = .ok dir ∧ t.step dir last = .ok place := by
  constructor
  · intro h
    rcases h with ⟨hnil, -⟩ | ⟨front', last', dir, heq, hwalk, hstep⟩
    · exact absurd hnil (by simp)
    · obtain ⟨rfl, hlast⟩ := List.append_inj' heq rfl
      obtain rfl := List.singleton_inj.1 hlast
      exact ⟨dir, hwalk, hstep⟩
  · intro h
    obtain ⟨dir, hwalk, hstep⟩ := h
    exact .inr ⟨front, last, dir, rfl, hwalk, hstep⟩

/-- A walk along all names but the last, and a step along that one. -/
private theorem step_walk_eq_ok_iff {t : FileTree} {first place : Place} {front : List Text}
    {last : Text} : (do return some (← t.step (← t.walk first front) last)) = .ok (some place) ↔
      t.Leads first (front ++ [last]) place := by
  rw [leads_append_singleton_iff]
  cases t.walk first front with
  | error cause => simp [bind, Except.bind]
  | ok dir =>
    cases hstep : t.step dir last with
    | error cause => simp [hstep, bind, Except.bind]
    | ok next => simp [hstep, bind, Except.bind, pure, Except.pure]

/-- The names spell the place to which they lead. -/
theorem Leads.eq_foldl {t : FileTree} {first place : Place} {names : List Text}
    (h : t.Leads first names place) : place = names.foldl FilePath.follow first := by
  rcases h with ⟨rfl, rfl⟩ | ⟨front, last, dir, rfl, hwalk, hstep⟩
  · rfl
  · rw [List.foldl_append, ← eq_foldl_of_walk hwalk]
    exact (step_eq_ok_iff.1 hstep).2.2

end FileTree

namespace FilePath

/-- Where the walk along a path begins: at the root, or where the program stands. -/
def start (standing : Standing) (p : FilePath) : Standing :=
  if p.isAbsolute then .at [] else standing

/-- The place that a path spells; none if it leads out of no directory that is there. -/
def place? (standing : Standing) (p : FilePath) : Option Place :=
  match (p.start standing).enter p.names with
  | .ok (some (first, names)) => some (names.foldl follow first)
  | _ => none

theorem place?_of_isAbsolute {p : FilePath} (h : p.isAbsolute = true) (standing : Standing) :
    p.place? standing = some (settle p.names) := by
  rw [place?, start, if_pos h]
  rfl

theorem eq_place_of_enter {standing : Standing} {names rest : List Text} {first : Place}
    (h : standing.enter names = .ok (some (first, rest))) : first = standing.place := by
  rw [Standing.enter] at h
  cases houtside : Standing.namesOutside standing.lost names with
  | error cause =>
    rw [houtside] at h
    cases h
  | ok left =>
    rw [houtside] at h
    cases left with
    | none => cases h
    | some left =>
      have hpair := Option.some.inj (Except.ok.inj h)
      exact (Prod.mk.inj hpair).1.symm

end FilePath

namespace FileTree

variable {t u v : FileTree} {standing : Standing} {p : FilePath} {place : Place}

/-- When a path leads somewhere, and where. -/
theorem target_eq_some_iff :
    t.target standing p = .ok (some place) ↔ p.toText.byteLength ≤ pathLimit ∧
      ∃ first names, (p.start standing).enter p.names = .ok (some (first, names)) ∧
        t.Leads first names place := by
  rw [target]
  by_cases hlong : pathLimit < p.toText.byteLength
  · rw [if_pos hlong]
    constructor
    · intro h
      cases h
    · intro h
      exact absurd hlong (Nat.not_lt.2 h.1)
  · rw [if_neg hlong]
    have hshort : p.toText.byteLength ≤ pathLimit := Nat.le_of_not_lt hlong
    show (((p.start standing).enter p.names) >>= _) = _ ↔ _
    cases (p.start standing).enter p.names with
    | error cause => simp [bind, Except.bind]
    | ok entered =>
      cases entered with
      | none => simp [bind, Except.bind, pure, Except.pure]
      | some entered =>
        obtain ⟨first, names⟩ := entered
        have hentered : (∃ first' names',
            (Except.ok (some (first, names)) : Except FileCause _) = .ok (some (first', names')) ∧
              t.Leads first' names' place) ↔ t.Leads first names place := by
          constructor
          · rintro ⟨_, _, ⟨⟩, h⟩
            exact h
          · exact fun h => ⟨first, names, rfl, h⟩
        rw [hentered, and_iff_right hshort]
        simp only [bind, Except.bind]
        cases hlast : names.getLast? with
        | none =>
          obtain rfl := List.getLast?_eq_none_iff.1 hlast
          rw [leads_nil_iff]
          simp [pure, Except.pure, eq_comm]
        | some last =>
          obtain ⟨front, rfl⟩ := List.getLast?_eq_some_iff.1 hlast
          rw [List.dropLast_concat]
          exact step_walk_eq_ok_iff

/-- A path leads to the place that it spells, in whatever tree. -/
theorem place?_of_target (h : t.target standing p = .ok (some place)) :
    p.place? standing = some place := by
  obtain ⟨-, first, names, henter, hleads⟩ := target_eq_some_iff.1 h
  rw [FilePath.place?, henter, hleads.eq_foldl]

/-- What is found where a path leads; a removed directory is empty. -/
theorem find_eq_ok_iff {sub : FileTree} : t.find standing p = .ok sub ↔
    t.target standing p = .ok none ∧ sub = .directory [] ∨
      ∃ place, t.target standing p = .ok (some place) ∧ t.at? place = some sub := by
  rw [find]
  cases t.target standing p with
  | error cause => simp [bind, Except.bind]
  | ok there =>
    cases there with
    | none => simp [bind, Except.bind, pure, Except.pure, eq_comm]
    | some place =>
      cases hat : t.at? place <;>
        simp [bind, Except.bind, pure, Except.pure, throw, throwThe, MonadExceptOf.throw, hat]

theorem entry?_eq_file_iff {content : ByteArray} :
    t.entry? place = some (.file content) ↔ t.at? place = some (.file content) := by
  unfold entry?
  cases t.at? place with
  | none => simp
  | some sub => cases sub <;> simp [top]

/-- A file can be read where a path leads to it. -/
theorem read_eq_ok_iff {content : ByteArray} : t.read standing p = .ok content ↔
    ∃ place, t.target standing p = .ok (some place) ∧ t.entry? place = some (.file content) := by
  have hfind : t.read standing p = .ok content ↔ t.find standing p = .ok (.file content) := by
    rw [read]
    cases t.find standing p with
    | error cause => simp [bind, Except.bind]
    | ok sub =>
      cases sub <;>
        simp [bind, Except.bind, pure, Except.pure, throw, throwThe, MonadExceptOf.throw]
  simp only [hfind, find_eq_ok_iff, entry?_eq_file_iff, reduceCtorEq, and_false, false_or]

/-! ## Trees from which nothing is removed -/

/-- Whatever stood somewhere stands there still, a directory as a directory and a file as a file. -/
def Keeps (before after : FileTree) : Prop :=
  ∀ place entry, before.entry? place = some entry →
    ∃ later, after.entry? place = some later ∧ (later = .directory ↔ entry = .directory)

namespace Keeps

theorem directory (h : t.Keeps u) (hdir : t.entry? place = some .directory) :
    u.entry? place = some .directory := by
  obtain ⟨later, hlater, hkind⟩ := h place .directory hdir
  rw [hlater, hkind.2 rfl]

theorem entry?_eq_none (h : t.Keeps u) (hnone : u.entry? place = none) :
    t.entry? place = none := by
  cases hentry : t.entry? place with
  | none => rfl
  | some entry =>
    obtain ⟨later, hlater, -⟩ := h place entry hentry
    rw [hnone] at hlater
    cases hlater

theorem step {next : Place} {name : Text} (h : t.Keeps u) (hstep : t.step place name = .ok next) :
    u.step place name = .ok next := by
  obtain ⟨hdir, hshort, hnext⟩ := step_eq_ok_iff.1 hstep
  exact step_eq_ok_iff.2 ⟨h.directory hdir, hshort, hnext⟩

theorem walk {names : List Text} {last : Place} (h : t.Keeps u)
    (hwalk : t.walk place names = .ok last) : u.walk place names = .ok last := by
  induction names generalizing place with
  | nil => exact hwalk
  | cons name names ih =>
    obtain ⟨hstep, hthere, hrest⟩ := walk_cons_eq_ok_iff.1 hwalk
    exact walk_cons_eq_ok_iff.2 ⟨h.step hstep, mt h.entry?_eq_none hthere, ih hrest⟩

/-- A path keeps leading where it leads. -/
theorem target (h : t.Keeps u) (htarget : t.target standing p = .ok (some place)) :
    u.target standing p = .ok (some place) := by
  obtain ⟨hshort, first, names, henter, hleads⟩ := target_eq_some_iff.1 htarget
  refine target_eq_some_iff.2 ⟨hshort, first, names, henter, ?_⟩
  rcases hleads with hnil | ⟨front, last, dir, hnames, hwalk, hstep⟩
  · exact .inl hnil
  · exact .inr ⟨front, last, dir, hnames, h.walk hwalk, h.step hstep⟩

end Keeps

/-! ## Putting one entry -/

/-- One entry has been put where a path leads, no directory having been there. -/
structure EntryPut (standing : Standing) (p : FilePath) (place : Place) (entry : Entry)
    (before after : FileTree) : Prop where
  leads : before.target standing p = .ok (some place)
  free : before.entry? place ≠ some .directory
  there : after.entry? place = some entry
  elsewhere : ∀ other, other ≠ place → after.entry? other = before.entry? other

/-- Wherever the program stands, the tree has the directory at which its walks begin. -/
def Carries (t : FileTree) (standing : Standing) : Prop :=
  t.entry? standing.place = some .directory

theorem Keeps.carries (h : t.Keeps u) (hstands : t.Carries standing) : u.Carries standing :=
  h.directory hstands

/-- Walks from the root can begin if others can. -/
theorem entry?_start (hstands : t.Carries standing) (p : FilePath) :
    t.entry? (p.start standing).place = some .directory := by
  rw [FilePath.start]
  split
  · by_cases hroot : standing.place = []
    · rw [Carries, hroot] at hstands
      exact hstands
    · have hbelow : t.entry? ([] ++ standing.place) ≠ none := by
        rw [List.nil_append, hstands]
        simp
      exact entry?_eq_directory_of_append hroot hbelow
  · exact hstands

/-- Where a path leads is a directory, or below a directory. -/
theorem directory_of_target (hstands : t.Carries standing)
    (htarget : t.target standing p = .ok (some place)) : t.entry? place = some .directory ∨
      ∃ dir name, place = dir ++ [name] ∧ t.entry? dir = some .directory := by
  obtain ⟨-, first, names, henter, hleads⟩ := target_eq_some_iff.1 htarget
  rcases hleads with ⟨-, rfl⟩ | ⟨front, last, dir, -, -, hstep⟩
  · refine .inl ?_
    rw [FilePath.eq_place_of_enter henter]
    exact entry?_start hstands p
  · obtain ⟨hdir, -, rfl⟩ := step_eq_ok_iff.1 hstep
    rw [FilePath.follow]
    split
    · exact .inl (entry?_dropLast hdir)
    · exact .inr ⟨dir, last, rfl, hdir⟩

private theorem entryPut_put (new : FileTree) (hnew : ∀ rest, rest ≠ [] → new.entry? rest = none)
    (hstands : t.Carries standing)
    (htarget : t.target standing p = .ok (some place)) (hfree : t.entry? place ≠ some .directory) :
    EntryPut standing p place new.top t (put new t place) where
  leads := htarget
  free := hfree
  there := by
    rcases directory_of_target hstands htarget with hdir | ⟨dir, name, rfl, hdir⟩
    · exact absurd hdir hfree
    · obtain ⟨entries, hentries⟩ := at?_of_entry?_eq_directory hdir
      unfold entry?
      rw [at?_put_self hentries rfl]
      rfl
  elsewhere := fun _ hne => entry?_put_of_ne hnew hfree hne

theorem entryPut_of_makeDirectory (hstands : t.Carries standing)
    (h : t.makeDirectory standing p = .ok u) :
    ∃ place, EntryPut standing p place .directory t u ∧ t.entry? place = none := by
  obtain ⟨place, htarget, hnone, rfl⟩ := makeDirectory_eq_ok_iff.1 h
  have hfree : t.entry? place ≠ some .directory := by
    rw [hnone]
    simp
  exact ⟨place, entryPut_put _ (fun _ => entry?_directory_nil) hstands htarget hfree, hnone⟩

theorem entryPut_of_write {content : ByteArray}
    (hstands : t.Carries standing)
    (h : t.write standing p content = .ok u) :
    ∃ place, EntryPut standing p place (.file content) t u := by
  obtain ⟨place, htarget, hfree, rfl⟩ := write_eq_ok_iff.1 h
  exact ⟨place, entryPut_put _ (fun _ => entry?_file) hstands htarget hfree⟩

/-- Nothing is removed when a file is put anywhere, or a directory where nothing is. -/
theorem EntryPut.keeps {entry : Entry} (h : EntryPut standing p place entry t u)
    (hnew : entry = .directory → t.entry? place = none) : t.Keeps u := by
  intro other old hold
  by_cases hother : other = place
  · refine ⟨entry, by rw [hother, h.there], ?_⟩
    rw [hother] at hold
    constructor
    · intro hdir
      rw [hnew hdir] at hold
      cases hold
    · intro hdir
      rw [hdir] at hold
      exact absurd hold h.free
  · exact ⟨old, by rw [h.elsewhere other hother, hold], Iff.rfl⟩

end FileTree

end TraitDoc
