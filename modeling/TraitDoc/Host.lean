import TraitDoc.FileFault
import TraitDoc.Home
/-!
# Hosts

What a program asks of the system it runs on: files, the place where it stands,
the home directories of accounts, a clock, and two streams to print on. A host
is a monad with these operations, so that the same program runs on a file tree
in memory, where theorems can speak about it, and on a real system.

An operation that can fail answers with the fault; what to make of it is for the
program to say.

## Main definitions

* `Host` — the operations.
* `Host.entry?`, `Host.isDirectory`, `Host.isThere` — what stands at a path.
* `Host.makeDirectories` — a directory with all directories above it.
-/

namespace TraitDoc

/-- A stream to print on. -/
inductive Stream
  /-- The stream of results. -/
  | output
  /-- The stream of messages. -/
  | errors
deriving DecidableEq, Repr

/-- What can stand at a path. -/
inductive EntryKind
  | file
  | directory
deriving DecidableEq, Repr

/-- A system to run on. -/
class Host (m : Type → Type) where
  /-- The directory from which relative paths are read. -/
  standing : m (Except FileFault FilePath)
  /-- The home directories of accounts. -/
  homes : m Homes
  /-- A path without `..` and without links, read from where the program stands, to something or not. -/
  resolve : FilePath → m (Except FileFault FilePath)
  /-- What stands at a path. -/
  kind : FilePath → m (Except FileFault EntryKind)
  /-- The bytes of a file. -/
  read : FilePath → m (Except FileFault ByteArray)
  /-- Makes a file that holds a text, in place of the one that is there, if any. -/
  writeText : FilePath → Text → m (Except FileFault Unit)
  /-- Makes an empty file unless one is there. -/
  openFile : FilePath → m (Except FileFault Unit)
  /-- Adds bytes at the end of a file that is there. -/
  append : FilePath → ByteArray → m (Except FileFault Unit)
  /-- Makes a directory where nothing is. -/
  makeDirectory : FilePath → m (Except FileFault Unit)
  /-- The time, as a journal shows it. -/
  now : m Text
  /-- Prints on a stream. -/
  print : Stream → Text → m (Except FileFault Unit)

namespace Host

variable {m : Type → Type} [Monad m] [Host m]

/-- What stands at a path, where a path that leads nowhere has nothing there. -/
def entry? (p : FilePath) : m (Except FileFault (Option EntryKind)) := do
  match ← kind p with
  | .ok kind => return .ok (some kind)
  | .error .unfit => return .ok none
  | .error (.refused cause path) =>
    return if cause.showsNothing then .ok none else .error (.refused cause path)

/-- Whether a directory stands at a path. -/
def isDirectory (p : FilePath) : m (Except FileFault Bool) := do
  return (← entry? p).map (· == some .directory)

/-- Whether anything stands at a path. -/
def isThere (p : FilePath) : m (Except FileFault Bool) := do
  return (← entry? p).map Option.isSome

/-- A path without `..` by its names alone, read from where the program stands, with the root as it spells it. -/
def absolute (p : FilePath) : m (Except FileFault FilePath) := do
  if p.isAbsolute then return .ok (FilePath.absolute p p)
  return (← standing).map fun directory => FilePath.absolute directory p

/-- Makes a directory unless one is there, in a directory that must be there. -/
def ensureDirectory (p : FilePath) : m (Except FileFault Unit) := do
  match ← makeDirectory p with
  | .ok () => return .ok ()
  | .error (.refused .notFound path) => return .error (.refused .notFound path)
  | .error (.refused cause path) =>
    match ← isDirectory p with
    | .ok true => return .ok ()
    | .ok false => return .error (.refused cause path)
    | .error other => return .error other
  | .error .unfit => return .error .unfit

/-- Makes the directory that is reached by these names, the last one first, and all above it. -/
def makeDirectoriesUp (anchor : Anchor) : List Text → m (Except FileFault Unit)
  | [] => ensureDirectory ⟨anchor, []⟩
  | last :: above => do
    let p : FilePath := ⟨anchor, (last :: above).reverse⟩
    match ← ensureDirectory p with
    | .error (.refused .notFound _) =>
      match ← makeDirectoriesUp anchor above with
      | .ok () => ensureDirectory p
      | .error fault => return .error fault
    | result => return result

/-- Makes a directory and all directories above it, as far as they are not there. -/
def makeDirectories (p : FilePath) : m (Except FileFault Unit) :=
  makeDirectoriesUp p.anchor p.names.reverse

end Host

end TraitDoc
