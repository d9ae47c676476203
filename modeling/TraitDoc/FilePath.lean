import TraitDoc.Text.Split
/-!
# File paths

A file path is an anchor and the names that lead on from it. The anchor says
where the walk begins: where the program stands, or at the root. Two leading
slashes are an anchor of their own, since systems may read them differently;
three or more are the root.

Reading a path drops empty names and `.`, which lead nowhere. It keeps `..`,
because what that means depends on the files on the way. `FilePath.resolved`
gives `..` its lexical meaning, which is the true one where no name on the way
is a link.

## Main definitions

* `FilePath`, `FilePath.ofText`, `FilePath.toText` — paths and their spelling.
* `FilePath.join` — one path read from the other.
* `FilePath.resolved` — an absolute path without `.` and `..`.
* `FilePath.relativeTo?` — a path seen from a directory above it.

## Main statements

* `FilePath.ne_parentName_of_mem_settle` — settled names have no `..`.
-/

namespace TraitDoc

/-! ## Paths -/

/-- Where a path begins. -/
inductive Anchor
  /-- Where the program stands. -/
  | here
  /-- At the root. -/
  | root
  /-- At the root, spelled with two slashes. -/
  | doubleRoot
deriving DecidableEq, Repr

/-- The slashes that spell an anchor. -/
def Anchor.toText : Anchor → Text
  | .here => []
  | .root => ['/']
  | .doubleRoot => ['/', '/']

/-- A place among files: where to begin, and the names to follow from there. -/
structure FilePath where
  anchor : Anchor
  names : List Text
deriving DecidableEq, Repr

namespace FilePath

/-- The name that stays where it is. -/
def stay : Text := ['.']

/-- The name that leads to the directory above. -/
def parentName : Text := ['.', '.']

/-- What counts as a name when a path is read. -/
def IsName (name : Text) : Prop := name ≠ [] ∧ name ≠ stay ∧ '/' ∉ name

/-- The anchor that the leading slashes of a text spell. -/
def anchorOf (s : Text) : Anchor :=
  match (s.takeWhile (· == '/')).length with
  | 0 => .here
  | 2 => .doubleRoot
  | _ => .root

/-- The path that a text spells. -/
def ofText (s : Text) : FilePath :=
  ⟨anchorOf s, (Text.splitAt '/' s).filter fun name => name ≠ [] ∧ name ≠ stay⟩

/-- The spelling of a path. -/
def toText (p : FilePath) : Text :=
  match p.anchor, p.names with
  | .here, [] => stay
  | anchor, names => anchor.toText ++ Text.joinWith '/' names

/-- Whether the path begins at the root. -/
def isAbsolute (p : FilePath) : Bool := p.anchor != .here

/-- The second path, read from the first one unless it begins at the root itself. -/
def join (p q : FilePath) : FilePath :=
  if q.isAbsolute then q else ⟨p.anchor, p.names ++ q.names⟩

@[simp] theorem join_of_isAbsolute {p q : FilePath} (h : q.isAbsolute = true) : p.join q = q := by
  simp [join, h]

theorem isAbsolute_join {p : FilePath} (h : p.isAbsolute = true) (q : FilePath) :
    (p.join q).isAbsolute = true := by
  rw [join]
  split
  · assumption
  · exact h

/-- The last name, empty where there is none. -/
def lastName (p : FilePath) : Text := p.names.getLast?.getD []

/-- The path without its last name. -/
def parent (p : FilePath) : FilePath := ⟨p.anchor, p.names.dropLast⟩

/-! ## Resolving -/

/-- The names that remain when one more name is followed: `..` takes back the name before it. -/
def follow (done : List Text) (name : Text) : List Text :=
  if name = parentName then done.dropLast else done ++ [name]

/-- The names from the root that remain when all names are followed in turn. -/
def settle (names : List Text) : List Text := names.foldl follow []

/-- The path read from a directory, with `..` taken lexically, beginning at the root. -/
def resolved (directory p : FilePath) : FilePath := ⟨.root, settle (directory.join p).names⟩

/-- The path read from a directory, with `..` taken lexically, and the path's own spelling of the root. -/
def absolute (directory p : FilePath) : FilePath :=
  ⟨(directory.join p).anchor, settle (directory.join p).names⟩

theorem ne_parentName_of_mem_foldl_follow {names done : List Text}
    (hdone : ∀ n ∈ done, n ≠ parentName) : ∀ n ∈ names.foldl follow done, n ≠ parentName := by
  induction names generalizing done with
  | nil => exact hdone
  | cons m names ih =>
    apply ih
    intro n hn
    rw [follow] at hn
    split at hn
    · exact hdone n ((List.dropLast_sublist done).subset hn)
    · rename_i hm
      rcases List.mem_append.1 hn with hn | hn
      · exact hdone n hn
      · rw [List.mem_singleton.1 hn]
        exact hm

theorem ne_parentName_of_mem_settle {names : List Text} {name : Text}
    (h : name ∈ settle names) : name ≠ parentName :=
  ne_parentName_of_mem_foldl_follow (by simp) name h

/-! ## Seen from above -/

/-- The path from `directory` to `p`, where `p` begins with the whole of `directory`. -/
def relativeTo? (directory p : FilePath) : Option FilePath :=
  if p.anchor = directory.anchor ∧ directory.names.isPrefixOf p.names = true then
    some ⟨.here, p.names.drop directory.names.length⟩
  else none

end FilePath

end TraitDoc
