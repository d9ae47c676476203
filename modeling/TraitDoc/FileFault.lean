import TraitDoc.FilePath
import TraitDoc.Text.Quoted
/-!
# Faults of file operations

A file operation fails for one of a few causes, each with the number and the
words under which systems know it, and mostly at a path that the message
quotes. Or what it is given is unfit for any system, so that none is asked: a
path that holds the null character, a text with a character for which there are
no bytes, links that cannot be followed to an end.

## Main definitions

* `FileCause` — why the system refused.
* `FileFault` — a refusal, with the path that was asked for, or what no system is asked for.
* `FileFault.message` — the fault in words.
-/

namespace TraitDoc

/-- Why a system refuses a file operation. -/
inductive FileCause
  /-- A name on the way, or the last one, leads nowhere. -/
  | notFound
  /-- Something stands already where a directory should be made. -/
  | alreadyExists
  /-- A name on the way leads to a file. -/
  | notDirectory
  /-- The path leads to a directory where a file is asked for. -/
  | isDirectory
  /-- A name, or the whole path, has more bytes than a system takes. -/
  | nameTooLong
  /-- Links on the way lead round in a circle. -/
  | linkLoop
  /-- Any other cause, by the number and the words that the system has for it. -/
  | other (number : Nat) (words : Text)
deriving DecidableEq, Repr

namespace FileCause

/-- The number of a cause. -/
def number : FileCause → Nat
  | .notFound => 2
  | .alreadyExists => 17
  | .notDirectory => 20
  | .isDirectory => 21
  | .nameTooLong => 36
  | .linkLoop => 40
  | .other number _ => number

/-- The words for a cause. -/
def words : FileCause → Text
  | .notFound => "No such file or directory".toList
  | .alreadyExists => "File exists".toList
  | .notDirectory => "Not a directory".toList
  | .isDirectory => "Is a directory".toList
  | .nameTooLong => "File name too long".toList
  | .linkLoop => "Too many levels of symbolic links".toList
  | .other _ words => words

/-- Whether the cause shows that nothing stands at the path. -/
def showsNothing : FileCause → Bool
  | .notFound | .notDirectory | .linkLoop => true
  | _ => false

end FileCause

/-- A file operation that failed. -/
inductive FileFault
  /-- The system refused it; there is no path where the program's own place is gone. -/
  | refused (cause : FileCause) (path : Option FilePath)
  /--
  The path or the text is unfit: the path holds the null character, a character has no bytes, or the
  path is to be read to its end and links lead round in a circle.
  -/
  | unfit
deriving DecidableEq, Repr

namespace FileFault

/-- The fault of a path that holds the null character. -/
@[match_pattern] abbrev nullInPath : FileFault := .unfit

/-- The fault in words. -/
def message : FileFault → Text
  | .refused cause path =>
    "[Errno ".toList ++ (toString cause.number).toList ++ "] ".toList ++ cause.words ++
      match path with
      | none => []
      | some p => ": ".toList ++ p.toText.quoted
  | .unfit => "unfit for a file".toList

end FileFault

end TraitDoc
