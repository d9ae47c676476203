import TraitDoc.FileFault
import TraitDoc.FileTree.Standing
import TraitDoc.Text.Encoding
/-!
# Access to a file tree by paths

A path is followed name by name from the root, or from the place where the
program stands. Each name but the last must lead to a directory; `..` leads to
the directory above, and above the root is the root. So `..` behind a name that
leads nowhere fails, although the two would cancel out lexically.

Every operation first finds the *target* of its path, the place that the last
name denotes in a directory that exists, whether or not something stands there.
Then it looks at what stands there. A removed directory in which the program
stands has no place, but it is still an empty directory. An operation either
fails and says why, or answers; the ones that change something answer with the
new tree.

## Main definitions

* `FileTree.walk`, `FileTree.target` — where names and paths lead.
* `FileTree.find`, `FileTree.read`, `FileTree.write`, `FileTree.append`,
  `FileTree.openFile`, `FileTree.makeDirectory` — the operations.

## Main statements

* `FileTree.filePlace_eq_ok_iff` — where files can stand.
* `FileTree.write_eq_ok_iff`, `FileTree.makeDirectory_eq_ok_iff` — when these
  succeed, and with which tree.
-/

namespace TraitDoc.FileTree

/-- The most bytes that a name may have. -/
def nameLimit : Nat := 255

/-- The most bytes that the spelling of a path may have. -/
def pathLimit : Nat := 4095

/-! ## Where paths lead -/

/-- One name followed from a place. -/
def step (t : FileTree) (place : Place) (name : Text) : Except FileCause Place :=
  match t.at? place with
  | none => .error .notFound
  | some (.file _) => .error .notDirectory
  | some (.directory _) =>
    if name = FilePath.parentName then .ok place.dropLast
    else if nameLimit < name.byteLength then .error .nameTooLong
    else .ok (place ++ [name])

/-- All names followed in turn, each to something that is there. -/
def walk (t : FileTree) (place : Place) : List Text → Except FileCause Place
  | [] => .ok place
  | name :: rest => do
    let next ← t.step place name
    if (t.at? next).isNone then throw .notFound
    walk t next rest

/-- The place that a path denotes, in a directory that is there; none if that is a removed directory. -/
def target (t : FileTree) (standing : Standing) (p : FilePath) :
    Except FileCause (Option Place) := do
  if pathLimit < p.toText.byteLength then throw .nameTooLong
  let start := if p.isAbsolute then .at [] else standing
  match ← start.enter p.names with
  | none => return none
  | some (place, names) =>
    match names.getLast? with
    | none => return some place
    | some last => return some (← t.step (← t.walk place names.dropLast) last)

/-! ## Operations -/

/-- What stands where a path leads. -/
def find (t : FileTree) (standing : Standing) (p : FilePath) : Except FileCause FileTree := do
  match ← t.target standing p with
  | none => return .directory []
  | some place =>
    match t.at? place with
    | none => throw .notFound
    | some sub => return sub

/-- The bytes of the file to which a path leads. -/
def read (t : FileTree) (standing : Standing) (p : FilePath) : Except FileCause ByteArray := do
  match ← t.find standing p with
  | .file content => return content
  | .directory _ => throw .isDirectory

/-- The place where a file can stand to which a path leads, and the file that is there, if any. -/
def filePlace (t : FileTree) (standing : Standing) (p : FilePath) :
    Except FileCause (Place × Option ByteArray) := do
  match ← t.target standing p with
  | none => throw .isDirectory
  | some place =>
    match t.at? place with
    | some (.directory _) => throw .isDirectory
    | some (.file content) => return (place, some content)
    | none => return (place, none)

/--
The tree with a file of these bytes where a path leads, in place of the file that is there, if any.
A tree takes all of the bytes or fails with none of them written; a host may stop in between.
-/
def write (t : FileTree) (standing : Standing) (p : FilePath) (content : ByteArray) :
    Except FileCause FileTree := do
  let (place, _) ← t.filePlace standing p
  return put (.file content) t place

/-- The tree with a file where a path leads, as it was if there is one, else empty. -/
def openFile (t : FileTree) (standing : Standing) (p : FilePath) : Except FileCause FileTree := do
  match ← t.filePlace standing p with
  | (_, some _) => return t
  | (place, none) => return put (.file .empty) t place

/-- The tree with these bytes added at the end of the file to which a path leads. -/
def append (t : FileTree) (standing : Standing) (p : FilePath) (content : ByteArray) :
    Except FileCause FileTree := do
  match ← t.filePlace standing p with
  | (_, none) => throw .notFound
  | (place, some before) => return put (.file (before ++ content)) t place

/-- The tree with an empty directory where a path leads, nothing having been there. -/
def makeDirectory (t : FileTree) (standing : Standing) (p : FilePath) :
    Except FileCause FileTree := do
  match ← t.target standing p with
  | none => throw .alreadyExists
  | some place =>
    if (t.at? place).isSome then throw .alreadyExists
    return put (.directory []) t place

/-- The place to which a path leads, something being there. -/
def standingPlace (t : FileTree) (standing : Standing) (p : FilePath) : Except FileCause Place := do
  match ← t.target standing p with
  | none => throw .notFound
  | some place =>
    if (t.at? place).isNone then throw .notFound
    return place

/-! ## What the changing operations answer -/

theorem filePlace_eq_ok_iff {t : FileTree} {standing : Standing} {p : FilePath} {place : Place}
    {content : Option ByteArray} :
    t.filePlace standing p = .ok (place, content) ↔ t.target standing p = .ok (some place) ∧
      t.entry? place = content.map .file := by
  rw [filePlace]
  cases t.target standing p with
  | error cause => simp [bind, Except.bind]
  | ok there =>
    cases there with
    | none => simp [bind, Except.bind, throw, throwThe, MonadExceptOf.throw]
    | some there =>
      simp only [bind, Except.bind, Except.ok.injEq, Option.some.injEq, entry?]
      cases h : t.at? there with
      | none =>
        simp only [pure, Except.pure, Except.ok.injEq, Prod.mk.injEq]
        constructor
        · rintro ⟨rfl, rfl⟩
          simp [h]
        · rintro ⟨rfl, hc⟩
          cases content <;> simp_all
      | some sub =>
        cases sub with
        | file bytes =>
          simp only [pure, Except.pure, Except.ok.injEq, Prod.mk.injEq]
          constructor
          · rintro ⟨rfl, rfl⟩
            simp [h, top]
          · rintro ⟨rfl, hc⟩
            cases content <;> simp_all [top]
        | directory entries =>
          simp only [throw, throwThe, MonadExceptOf.throw, reduceCtorEq, false_iff, not_and]
          rintro rfl
          cases content <;> simp [h, top]

theorem write_eq_ok_iff {t new : FileTree} {standing : Standing} {p : FilePath}
    {content : ByteArray} :
    t.write standing p content = .ok new ↔ ∃ place, t.target standing p = .ok (some place) ∧
      t.entry? place ≠ some .directory ∧ new = put (.file content) t place := by
  rw [write]
  cases h : t.filePlace standing p with
  | error cause =>
    simp only [bind, Except.bind, reduceCtorEq, false_iff, not_exists, not_and]
    intro place hplace hentry
    exfalso
    cases he : t.entry? place with
    | none =>
      have := filePlace_eq_ok_iff.2 ⟨hplace, (show t.entry? place = none.map .file from he)⟩
      rw [h] at this
      cases this
    | some entry =>
      cases entry with
      | directory => exact hentry he
      | file bytes =>
        have := filePlace_eq_ok_iff.2 ⟨hplace, (show t.entry? place = (some bytes).map .file from he)⟩
        rw [h] at this
        cases this
  | ok found =>
    obtain ⟨hplace, hentry⟩ := filePlace_eq_ok_iff.1 h
    simp only [bind, Except.bind, pure, Except.pure, Except.ok.injEq]
    constructor
    · rintro rfl
      refine ⟨found.1, hplace, ?_, rfl⟩
      rw [hentry]
      cases found.2 <;> simp
    · rintro ⟨place, hp, -, rfl⟩
      rw [hplace, Except.ok.injEq, Option.some.injEq] at hp
      rw [hp]

theorem makeDirectory_eq_ok_iff {t new : FileTree} {standing : Standing} {p : FilePath} :
    t.makeDirectory standing p = .ok new ↔ ∃ place, t.target standing p = .ok (some place) ∧
      t.entry? place = none ∧ new = put (.directory []) t place := by
  rw [makeDirectory]
  cases t.target standing p with
  | error cause => simp [bind, Except.bind]
  | ok there =>
    cases there with
    | none => simp [bind, Except.bind, throw, throwThe, MonadExceptOf.throw]
    | some place =>
      simp only [bind, Except.bind, Except.ok.injEq, Option.some.injEq, exists_eq_left', entry?]
      cases h : t.at? place <;>
        simp [pure, Except.pure, throw, throwThe, MonadExceptOf.throw, eq_comm]

end TraitDoc.FileTree
