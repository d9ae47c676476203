import TraitDoc.FileTree.Access
/-!
# Growing trees

Making directories adds to a tree and takes nothing from it. The entries of the
tree are compared place by place, each without what is below it: a tree has
*grown* into another one if the other one has at every place the entry that the
first one has there, or a directory where the first one has nothing.

Which directories can be added is said by the operations themselves. On the way
to a path only directories on that way are made, so `FileTree.DirectoriesMade`
is a chain of single steps, each for a beginning of the path's names.

## Main definitions

* `FileTree.Grown` — only directories have been added.
* `FileTree.DirectoriesMade` — directories have been made on the way to a path.

## Main statements

* `FileTree.entry?_put_of_ne` — a file or an empty directory that is put where
  no directory is touches no other place.
* `FileTree.DirectoriesMade.grown` — where directories have been made, the tree
  has grown.
-/

namespace TraitDoc.FileTree

/-! ## Entries step by step -/

theorem entry?_cons (t : FileTree) (name : Text) (rest : Place) :
    t.entry? (name :: rest) = (t.child? name).bind fun sub => sub.entry? rest := by
  unfold entry?
  rw [at?]
  cases t.child? name with
  | none => rfl
  | some sub => rfl

/-- Below a file there is nothing. -/
theorem entry?_eq_none_of_top {t : FileTree} (h : t.top ≠ .directory) {place : Place}
    (hplace : place ≠ []) : t.entry? place = none := by
  cases place with
  | nil => exact absurd rfl hplace
  | cons name rest =>
    cases t with
    | file content => rfl
    | directory entries => exact absurd rfl h

theorem entry?_file {content : ByteArray} {place : Place} (hplace : place ≠ []) :
    entry? (.file content) place = none :=
  entry?_eq_none_of_top (t := .file content) (by simp [top]) hplace

/-- Below an empty directory there is nothing. -/
theorem entry?_directory_nil {place : Place} (hplace : place ≠ []) :
    entry? (.directory []) place = none := by
  cases place with
  | nil => exact absurd rfl hplace
  | cons name rest => rfl

/-! ## Putting what has nothing below it -/

/-- A directory with one entry put into it, seen from that entry and from all others. -/
private theorem entry?_putEntry (name : Text) (new : FileTree) (entries : List (Text × FileTree))
    (first : Text) (rest : Place) :
    entry? (directory (putEntry name new entries)) (first :: rest) =
      if first = name then new.entry? rest else entry? (directory entries) (first :: rest) := by
  rw [entry?_cons, entry?_cons]
  split
  · rename_i h
    rw [h, child?, lookup_putEntry_self]
    rfl
  · rename_i h
    rw [child?, child?, lookup_putEntry_of_ne h]

/-- A tree that is put below an entry of a directory changes that entry. -/
theorem put_cons_of_lookup {new sub : FileTree} {entries : List (Text × FileTree)} {name : Text}
    (hsub : entries.lookup name = some sub) (rest : Place) :
    put new (directory entries) (name :: rest) =
      directory (putEntry name (put new sub rest) entries) := by
  cases rest with
  | nil => rfl
  | cons next rest => rw [put, hsub]

/-- What has nothing below it and is put where no directory is touches no other place. -/
theorem entry?_put_of_ne {new : FileTree} (hnew : ∀ rest, rest ≠ [] → new.entry? rest = none)
    {t : FileTree} {place : Place} (h : t.entry? place ≠ some .directory) {other : Place}
    (hne : other ≠ place) : entry? (put new t place) other = t.entry? other := by
  induction place generalizing t other with
  | nil =>
    have htop : t.top ≠ .directory := fun heq => h (congrArg some heq)
    rw [put, hnew other hne, entry?_eq_none_of_top htop hne]
  | cons name rest ih =>
    cases t with
    | file content => rfl
    | directory entries =>
      cases other with
      | nil =>
        cases rest with
        | nil => rfl
        | cons next rest =>
          rw [put]
          split
          · rfl
          · rfl
      | cons first more =>
        rw [entry?_cons, child?] at h
        cases hsub : entries.lookup name with
        | none =>
          cases rest with
          | nil =>
            rw [put, entry?_putEntry]
            split
            · rename_i hfirst
              have hmore : more ≠ [] := fun hnil => hne (by rw [hfirst, hnil])
              rw [hfirst, hnew more hmore, entry?_cons, child?, hsub]
              rfl
            · rfl
          | cons next rest => rw [put, hsub]
        | some sub =>
          have hkeep : first = name → entry? (put new sub rest) more = sub.entry? more := by
            intro hfirst
            refine ih (by rwa [hsub] at h) fun hmore => hne (by rw [hfirst, hmore])
          rw [put_cons_of_lookup hsub, entry?_putEntry]
          split
          · rename_i hfirst
            rw [hkeep hfirst, hfirst, entry?_cons, child?, hsub]
            rfl
          · rfl

/-- What is put somewhere stands there afterwards, or nothing has changed. -/
theorem at?_put_or (new t : FileTree) (place : Place) :
    (put new t place).at? place = some new ∨ put new t place = t := by
  induction place generalizing t with
  | nil => exact .inl rfl
  | cons name rest ih =>
    cases t with
    | file content => exact .inr rfl
    | directory entries =>
      cases rest with
      | nil =>
        refine .inl ?_
        rw [put, at?, child?, lookup_putEntry_self]
        rfl
      | cons next rest =>
        cases hsub : entries.lookup name with
        | none =>
          refine .inr ?_
          rw [put, hsub]
        | some sub =>
          rw [put, hsub]
          rcases ih sub with hthere | hsame
          · refine .inl ?_
            rw [at?, child?, lookup_putEntry_self]
            exact hthere
          · refine .inr ?_
            show directory (putEntry name (put new sub (next :: rest)) entries) = directory entries
            rw [hsame, putEntry_lookup hsub]

/-! ## Growing -/

/-- Only directories have been added, each where nothing was. -/
def Grown (before after : FileTree) : Prop :=
  ∀ place, after.entry? place = before.entry? place ∨
    before.entry? place = none ∧ after.entry? place = some .directory

theorem Grown.refl (t : FileTree) : t.Grown t := fun _ => .inl rfl

theorem Grown.trans {t u v : FileTree} (htu : t.Grown u) (huv : u.Grown v) : t.Grown v := by
  intro place
  rcases htu place with htu | ⟨hnone, hdir⟩
  · rw [← htu]
    exact huv place
  · refine .inr ⟨hnone, ?_⟩
    rcases huv place with huv | ⟨hnone', -⟩
    · rw [huv, hdir]
    · rw [hdir] at hnone'
      cases hnone'

theorem grown_of_makeDirectory {t new : FileTree} {standing : Standing} {p : FilePath}
    (h : t.makeDirectory standing p = .ok new) : t.Grown new := by
  obtain ⟨place, -, hnone, rfl⟩ := makeDirectory_eq_ok_iff.1 h
  intro other
  by_cases heq : other = place
  · rw [heq]
    rcases at?_put_or (.directory []) t place with hthere | hsame
    · refine .inr ⟨hnone, ?_⟩
      unfold entry?
      rw [hthere]
      rfl
    · rw [hsame]
      exact .inl rfl
  · exact .inl (entry?_put_of_ne (fun _ => entry?_directory_nil) (by rw [hnone]; simp) heq)

/-! ## Directories on the way to a path -/

/-- Directories have been made at `p` or on the way to it, one after the other, from one tree to the other. -/
inductive DirectoriesMade (standing : Standing) (p : FilePath) : FileTree → FileTree → Prop
  | none (t : FileTree) : DirectoriesMade standing p t t
  | more {t u v : FileTree} {names : List Text} (hnames : names <+: p.names)
    (hmake : t.makeDirectory standing ⟨p.anchor, names⟩ = .ok u)
    (hrest : DirectoriesMade standing p u v) : DirectoriesMade standing p t v

namespace DirectoriesMade

variable {standing : Standing} {p : FilePath} {t u v : FileTree}

theorem trans (htu : DirectoriesMade standing p t u) (huv : DirectoriesMade standing p u v) :
    DirectoriesMade standing p t v := by
  induction htu with
  | none t => exact huv
  | more hnames hmake _ ih => exact .more hnames hmake (ih huv)

theorem grown (h : DirectoriesMade standing p t u) : t.Grown u := by
  induction h with
  | none t => exact .refl t
  | more _ hmake _ ih => exact (grown_of_makeDirectory hmake).trans ih

end DirectoriesMade

end TraitDoc.FileTree
