import TraitDoc.Journal
import TraitDoc.Settings.Load
import TraitDoc.Text.Order
import TraitDoc.TraitFile
/-!
# Runs

A run renders all files of a project, in the order of their names, and then
writes them. Nothing is written before everything has been rendered, so a source
that cannot be read or rendered leaves the target directory as it was. A dry run
renders and stops there.

A run tells the journal what it does, file by file.

## Main definitions

* `Run.readSource`, `Run.makeTrait`, `Run.writeTrait` — one file.
* `Run.makeTraits`, `Run.writeTraits` — the two phases.
* `Run.perform` — the run.
-/

namespace TraitDoc.Run

variable {m : Type → Type} [Monad m] [Host m]

/-- The part of the program that runs are, in the journal. -/
def journalName : Text := "orchestrator".toList

/-- A message about the run. -/
def tell (j : Journal) (level : Level) (message : Text) : ExceptT Failure m Unit :=
  ExceptT.lift (j.note journalName level message)

/-! ## One file -/

/-- The source file of that name. -/
def readSource (s : Settings) (j : Journal) (filename : Text) : ExceptT Failure m SourceFile := do
  let path := s.sourcePath filename
  tell j .debug ("Reading ".toList ++ path.toText)
  let text ← readText path
  return { filename, text, declaredName := s.declaredName filename }

/-- The trait file of the source file of that name. -/
def makeTrait (s : Settings) (j : Journal) (filename : Text) : ExceptT Failure m TraitFile := do
  let source ← readSource s j filename
  let file ← fromExcept ((s.traitFile source).mapError .render)
  if file.isPatched then tell j .debug ("Applying special patch to ".toList ++ filename)
  return file

/-- Writes a trait file, with all directories above it. -/
def writeTrait (j : Journal) (file : TraitFile) : ExceptT Failure m Unit := do
  fromFile (Host.makeDirectories file.path.parent)
  fromFile (Host.writeText file.path file.contents)
  tell j .debug ("Wrote ".toList ++ file.path.toText)

/-! ## All files -/

/-- The trait files of the source files of these names. -/
def makeTraits (s : Settings) (j : Journal) : List Text → ExceptT Failure m (List TraitFile)
  | [] => pure []
  | filename :: rest => do
    let file ← makeTrait s j filename
    return file :: (← makeTraits s j rest)

/-- Writes trait files one after the other. -/
def writeTraits (j : Journal) : List TraitFile → ExceptT Failure m Unit
  | [] => pure ()
  | file :: rest => do
    writeTrait j file
    writeTraits j rest

/-- The names in the order of their characters. -/
def sorted (names : List Text) : List Text := names.mergeSort Text.notAfter

/-- A number in decimal digits. -/
def count (n : Nat) : Text := (toString n).toList

/-- The run over a project, which goes with the trait files that it made. -/
def perform (s : Settings) (j : Journal) (dry : Bool) : ExceptT Failure m (List TraitFile) := do
  let names := sorted s.filenames
  tell j .info ("Porting ".toList ++ count names.length ++ " tag files from ".toList ++
    s.sourceDir.toText ++ " to ".toList ++ s.targetDir.toText)
  let files ← makeTraits s j names
  if dry then
    tell j .info ("Dry-run completed; ".toList ++ count files.length ++
      " files not written".toList)
    return files
  writeTraits j files
  tell j .info ("Wrote ".toList ++ count files.length ++ " Scala files under ".toList ++
    s.targetDir.toText)
  return files

end TraitDoc.Run
