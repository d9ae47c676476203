import TraitDoc.FileTree.Access
import TraitDoc.Host
/-!
# Workspaces

A host in memory: a file tree, the place in it where the program stands, home
directories, a clock that stands still, and what has been printed so far. This
is the host about which most theorems speak.

It is simpler than hosts can be: there are no links, a file is written as a whole
or not at all, every text has bytes, and printing does not fail.

## Main definitions

* `Workspace` — the state.
* `Workspace.remove`, `Workspace.stand` — what a surrounding system does to it.
* `Host.write` — a file of bytes.
* the instance of `Host` on `StateM Workspace`.
-/

namespace TraitDoc

/-- The state of a host in memory. -/
structure Workspace where
  tree : FileTree
  /-- Where the program stands. -/
  standing : Standing
  homes : Homes
  /-- The time that the clock shows. -/
  now : Text
  /-- What has been printed on the stream of results. -/
  output : Text := []
  /-- What has been printed on the stream of messages. -/
  errors : Text := []

namespace Workspace

/-- The answer to an operation at a path, where a path with a null character is refused beforehand. -/
def answer {α : Type} (w : Workspace) (p : FilePath)
    (operation : FileTree → Standing → FilePath → Except FileCause α) : Except FileFault α :=
  if '\x00' ∈ p.toText then .error .nullInPath
  else
    match operation w.tree w.standing p with
    | .ok a => .ok a
    | .error cause => .error (.refused cause (some p))

/-- The state after an operation that changes the tree, and whether it did. -/
def change (w : Workspace) (p : FilePath)
    (operation : FileTree → Standing → FilePath → Except FileCause FileTree) :
    Except FileFault Unit × Workspace :=
  match w.answer p operation with
  | .ok tree => (.ok (), { w with tree })
  | .error fault => (.error fault, w)

/-- Where the program stands, as a path. -/
def place (w : Workspace) : Except FileFault FilePath :=
  if w.standing.lost = 0 && w.tree.entry? w.standing.place matches some .directory then
    .ok ⟨.root, w.standing.place⟩
  else .error (.refused .notFound none)

/-- A path without `..`, read from where the program stands; there are no links to follow. -/
def resolved (w : Workspace) (p : FilePath) : Except FileFault FilePath :=
  if '\x00' ∈ p.toText then .error .nullInPath
  else if p.isAbsolute then .ok (FilePath.resolved p p)
  else w.place.map fun directory => FilePath.resolved directory p

/-- What stands at a path. -/
def kind (w : Workspace) (p : FilePath) : Except FileFault EntryKind :=
  (w.answer p FileTree.find).map fun t => if t.isDirectory then .directory else .file

/--
The state after removing what stands at a path, with the place where it stood. A directory is
emptied first, so a path that leads through the directory to the directory fails in the end.
-/
def remove (w : Workspace) (p : FilePath) : Except FileFault Place × Workspace :=
  match w.answer p FileTree.standingPlace with
  | .error fault => (.error fault, w)
  | .ok place =>
    let standing := w.standing.without place
    if w.tree.entry? place matches some .directory then
      let emptied := { w with tree := FileTree.put (.directory []) w.tree place }
      match emptied.answer p FileTree.standingPlace with
      | .ok _ => (.ok place, { w with tree := w.tree.erase place, standing })
      | .error fault => (.error fault, { emptied with standing := w.standing.emptied place })
    else (.ok place, { w with tree := w.tree.erase place, standing })

/-- The state in which the program stands at a path. -/
def stand (w : Workspace) (p : FilePath) : Except FileFault Workspace := do
  let place ← w.answer p fun t standing p => do
    let place ← t.standingPlace standing p
    if t.entry? place matches some .directory then return place else throw .notDirectory
  return { w with standing := .at place }

/-- The state after printing. -/
def print (w : Workspace) (stream : Stream) (text : Text) : Workspace :=
  match stream with
  | .output => { w with output := w.output ++ text }
  | .errors => { w with errors := w.errors ++ text }

end Workspace

/-- Makes a file of these bytes in a workspace, in place of the one that is there, if any. -/
def Host.write (p : FilePath) (content : ByteArray) : StateM Workspace (Except FileFault Unit) :=
  fun w => w.change p fun t standing p => t.write standing p content

instance : Host (StateM Workspace) where
  standing := fun w => (w.place, w)
  homes := fun w => (w.homes, w)
  resolve p := fun w => (w.resolved p, w)
  kind p := fun w => (w.kind p, w)
  read p := fun w => (w.answer p FileTree.read, w)
  writeText p text := Host.write p (Text.encode text)
  openFile p := fun w => w.change p FileTree.openFile
  append p content := fun w => w.change p fun t standing p => t.append standing p content
  makeDirectory p := fun w => w.change p FileTree.makeDirectory
  now := fun w => (w.now, w)
  print stream text := fun w => (.ok (), w.print stream text)

end TraitDoc
