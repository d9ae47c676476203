import TraitDoc.Proofs.Growth
/-!
# Files written over files

A file that is written where a file stands takes its place, and an entry keeps
its position in its directory. So of the files that are written at one place
only the last one matters, and files that go to different places can be written
in either order: the trees come out equal, not merely alike.

Writing is therefore deaf to what it covers. If one of the places to be written
is written beforehand, the result is the same. For a list of writes that is all
there is to doing it twice: the second time each file finds what the first time
left there, unless a later one covers it anyhow.

## Main definitions

* `FileTree.HoldsFile` — a file stands at a place.
* `FileTree.overwrite` — files put at places, one after the other.

## Main statements

* `FileTree.put_put_self`, `FileTree.put_file_comm` — two files put one after the other.
* `FileTree.overwrite_put_file` — a file that is covered later makes no difference.
-/

namespace TraitDoc.FileTree

/-! ## Entries put twice -/

theorem putEntry_putEntry_self (name : Text) (old new : FileTree)
    (entries : List (Text × FileTree)) :
    putEntry name new (putEntry name old entries) = putEntry name new entries := by
  induction entries with
  | nil => simp [putEntry]
  | cons entry rest ih =>
    obtain ⟨n, t⟩ := entry
    by_cases hn : n = name
    · simp [putEntry, hn]
    · simp [putEntry, hn, ih]

/-- Entries that are there can be replaced in either order, for none of them moves. -/
theorem putEntry_comm {name other : Text} (hne : other ≠ name) {sub : FileTree} (a b : FileTree)
    {entries : List (Text × FileTree)} (hsub : entries.lookup name = some sub) :
    putEntry other b (putEntry name a entries) = putEntry name a (putEntry other b entries) := by
  induction entries with
  | nil => cases hsub
  | cons entry rest ih =>
    obtain ⟨n, t⟩ := entry
    by_cases hname : n = name
    · have hother : ¬ n = other := fun h => hne (h.symm.trans hname)
      have hkeep : ¬ name = other := fun h => hne h.symm
      simp [putEntry, hname, hkeep]
    · have hlater : (name == n) = false := by simpa using Ne.symm hname
      rw [List.lookup_cons, hlater] at hsub
      by_cases hother : n = other
      · simp [putEntry, hother, hne]
      · simp [putEntry, hname, hother, ih hsub]

/-! ## Files put one after the other -/

/-- What is put at a place covers what was put there before. -/
theorem put_put_self (old new t : FileTree) (place : Place) :
    put new (put old t place) place = put new t place := by
  induction place generalizing t with
  | nil => rfl
  | cons name rest ih =>
    cases t with
    | file content => rfl
    | directory entries =>
      cases rest with
      | nil => simp only [put, putEntry_putEntry_self]
      | cons next rest =>
        cases hsub : entries.lookup name with
        | none => simp only [put, hsub]
        | some sub =>
          rw [put_cons_of_lookup hsub, put_cons_of_lookup hsub,
            put_cons_of_lookup (lookup_putEntry_self _ _ _), ih, putEntry_putEntry_self]

/-- A file stands at the place. -/
def HoldsFile (t : FileTree) (place : Place) : Prop :=
  ∃ content, t.entry? place = some (.file content)

/-- A directory above a file holds an entry on the way to it, in which the file is. -/
theorem HoldsFile.below {entries : List (Text × FileTree)} {name : Text} {rest : Place}
    (h : HoldsFile (directory entries) (name :: rest)) :
    ∃ sub, entries.lookup name = some sub ∧ sub.HoldsFile rest := by
  obtain ⟨content, hfile⟩ := h
  rw [entry?_cons, child?] at hfile
  cases hsub : entries.lookup name with
  | none =>
    rw [hsub] at hfile
    cases hfile
  | some sub =>
    rw [hsub] at hfile
    exact ⟨sub, rfl, content, hfile⟩

theorem not_holdsFile_below_file (content : ByteArray) (name : Text) (rest : Place) :
    ¬ HoldsFile (.file content) (name :: rest) := by
  intro h
  obtain ⟨other, hfile⟩ := h
  cases hfile

theorem not_holdsFile_directory (entries : List (Text × FileTree)) :
    ¬ HoldsFile (.directory entries) [] := by
  intro h
  obtain ⟨content, hfile⟩ := h
  cases hfile

/-- Files that stand at different places can be replaced in either order. -/
theorem put_file_comm {t : FileTree} {p q : Place} (hne : p ≠ q) (hp : t.HoldsFile p)
    (hq : t.HoldsFile q) (a b : ByteArray) :
    put (.file b) (put (.file a) t p) q = put (.file a) (put (.file b) t q) p := by
  induction p generalizing t q with
  | nil =>
    cases t with
    | directory entries => exact absurd hp (not_holdsFile_directory entries)
    | file content =>
      cases q with
      | nil => exact absurd rfl hne
      | cons other more => exact absurd hq (not_holdsFile_below_file content other more)
  | cons name rest ih =>
    cases t with
    | file content => exact absurd hp (not_holdsFile_below_file content name rest)
    | directory entries =>
      cases q with
      | nil => exact absurd hq (not_holdsFile_directory entries)
      | cons other more =>
        obtain ⟨sub, hsub, hrest⟩ := hp.below
        obtain ⟨sub', hsub', hmore⟩ := hq.below
        rw [put_cons_of_lookup hsub, put_cons_of_lookup hsub']
        by_cases hsame : other = name
        · -- both are in the same entry, so the order is a matter for that one
          rw [hsame] at hsub' hne ⊢
          have hsubs : sub' = sub := Option.some.inj (hsub'.symm.trans hsub)
          have hplaces : rest ≠ more := fun h => hne (by rw [h])
          rw [hsubs] at hmore ⊢
          rw [put_cons_of_lookup (lookup_putEntry_self _ _ _),
            put_cons_of_lookup (lookup_putEntry_self _ _ _), putEntry_putEntry_self,
            putEntry_putEntry_self, ih hplaces hrest hmore]
        · have hafter : (putEntry name (put (.file a) sub rest) entries).lookup other =
              some sub' := by
            rw [lookup_putEntry_of_ne hsame, hsub']
          have hbefore : (putEntry other (put (.file b) sub' more) entries).lookup name =
              some sub := by
            rw [lookup_putEntry_of_ne (Ne.symm hsame), hsub]
          rw [put_cons_of_lookup hafter, put_cons_of_lookup hbefore, putEntry_comm hsame _ _ hsub]

/-- Where files stand, files stand when one of them has been replaced. -/
theorem HoldsFile.put_file {t : FileTree} {p q : Place} (hp : t.HoldsFile p) (hq : t.HoldsFile q)
    (content : ByteArray) : (put (.file content) t q).HoldsFile p := by
  obtain ⟨old, hold⟩ := hq
  have hfile : t.entry? q ≠ some .directory := by
    rw [hold]
    simp
  by_cases hsame : p = q
  · rw [hsame]
    rcases at?_put_or (.file content) t q with hthere | hkept
    · refine ⟨content, ?_⟩
      unfold entry?
      rw [hthere]
      rfl
    · rw [hkept]
      exact ⟨old, hold⟩
  · obtain ⟨there, hthere⟩ := hp
    refine ⟨there, ?_⟩
    rw [entry?_put_of_ne (fun _ => entry?_file) hfile hsame, hthere]

/-- Putting a file where its content is already changes nothing. -/
theorem put_file_eq_self {t : FileTree} {place : Place} {content : ByteArray}
    (h : t.entry? place = some (.file content)) : put (.file content) t place = t := by
  apply put_at?
  unfold entry? at h
  cases hsub : t.at? place with
  | none =>
    rw [hsub] at h
    cases h
  | some sub =>
    rw [hsub] at h
    cases sub with
    | directory entries => cases h
    | file bytes =>
      have hbytes : bytes = content := Entry.file.inj (Option.some.inj h)
      rw [hbytes]

/-! ## Lists of writes -/

/-- The tree with files put at places, one after the other. -/
def overwrite (t : FileTree) (writes : List (Place × ByteArray)) : FileTree :=
  writes.foldl (fun t write => put (.file write.2) t write.1) t

/-- A file put where another one will be put later makes no difference. -/
theorem overwrite_put_file {t : FileTree} {writes : List (Place × ByteArray)} {place : Place}
    (hplace : t.HoldsFile place) (hthere : ∀ write ∈ writes, t.HoldsFile write.1)
    (hin : place ∈ writes.map (·.1)) (content : ByteArray) :
    overwrite (put (.file content) t place) writes = overwrite t writes := by
  induction writes generalizing t with
  | nil => cases hin
  | cons write writes ih =>
    have hwrite : t.HoldsFile write.1 := hthere write List.mem_cons_self
    show overwrite (put _ (put _ t place) write.1) writes = overwrite (put _ t write.1) writes
    by_cases hsame : write.1 = place
    · rw [hsame, put_put_self]
    · have hlater : place ∈ writes.map (·.1) := by
        rw [List.map_cons, List.mem_cons] at hin
        rcases hin with heq | hin
        · exact absurd heq.symm hsame
        · exact hin
      rw [put_file_comm (Ne.symm hsame) hplace hwrite]
      apply ih (hplace.put_file hwrite _) _ hlater
      intro other hother
      exact (hthere other (List.mem_cons_of_mem _ hother)).put_file hwrite _

end TraitDoc.FileTree
