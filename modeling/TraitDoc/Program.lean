import TraitDoc.CommandLine
import TraitDoc.Run
/-!
# The program

What the words of a command line lead to: help, a complaint about the words, or
a run over the project that they name. The journal is set up before anything is
read, and a failure that is meant for the user ends the program with a message
and the exit code one.

Complaints and help are printed as far as that is possible. Where a result cannot
be printed, the program breaks off.

The journal outlives the program, so the program takes the journal that there is
and goes with the one that it leaves.

## Main definitions

* `Program.Outcome` — the ways in which the program can end.
* `Program.mainWith` — the program, whatever reads settings documents.
* `Program.main` — the program.
-/

namespace TraitDoc.Program

/-- How the program ends. -/
inductive Outcome
  /-- It has done what was asked. -/
  | done
  /-- It exits with a code. -/
  | exit (code : Nat)
  /-- It breaks off, for a reason that it does not handle. -/
  | brokenOff (failure : Failure)
deriving DecidableEq, Repr

/-- What the program says first. -/
def greeting : Text := "tagdoc: porting java tag files to scala\n".toList

/-- What the program says before it lists the files of a dry run. -/
def listHead : Text := "Scala files (dry-run):\n".toList

/-- What the user is told about a failure, where it is one for the user. -/
def complaint? (failure : Failure) : Option Text :=
  failure.message?.map fun message =>
    "tagdoc failed: ".toList ++ message ++ ['\n'] ++
      match failure with
      | .render _ => "Run with --verbose for more details.\n".toList
      | _ => []

variable {m : Type → Type} [Monad m] [Host m]

/-- Prints a result and goes on, or breaks off. -/
def printing (text : Text) (next : m Outcome) : m Outcome := do
  match ← Host.print .output text with
  | .error fault => return .brokenOff (.file fault)
  | .ok () => next

/-- The line that lists a file, by its path from a directory if it lies below that. -/
def listLine (directory : FilePath) (file : TraitFile) : Text :=
  "  ".toList ++ ((FilePath.relativeTo? directory file.path).getD file.path).toText ++ ['\n']

/-- Lists files, by their paths from where the program stands if they lie below that. -/
def list : List TraitFile → m Outcome
  | [] => return .done
  | file :: rest => do
    match ← Host.standing with
    | .error fault => return .brokenOff (.file fault)
    | .ok directory => printing (listLine directory file) (list rest)

/-- Tells the user about a failure, or breaks off. -/
def fail (failure : Failure) : m Outcome := do
  match complaint? failure with
  | some complaint =>
    discard (Host.print .errors complaint)
    return .exit 1
  | none => return .brokenOff failure

variable (parse : Text → Except Yaml.Fault Yaml.Value)

/-- The run over the project at a path, when `parse` reads documents. -/
def runAt (j : Journal) (path : Text) (dry : Bool) : ExceptT Failure m (List TraitFile) := do
  let settings ← Settings.loadWith parse (.ofText path)
  Run.perform settings j dry

/-- The program after it has said what it does. -/
def proceed (j : Journal) (path : Text) (dry : Bool) : m Outcome := do
  match ← (runAt parse j path dry).run with
  | .error failure => fail failure
  | .ok files =>
    if dry then printing listHead (list files)
    else return .done

/-- The program, from the words of its command line, when `parse` reads documents. -/
def mainWith (j : Journal) (arguments : List Text) : m (Journal × Outcome) := do
  match CommandLine.parse arguments with
  | .error misuse =>
    discard (Host.print .errors (CommandLine.complaint misuse))
    return (j, .exit 2)
  | .ok .help =>
    discard (Host.print .output CommandLine.help)
    return (j, .exit 0)
  | .ok (.run path verbose dry logFile) =>
    let (j, opened) ← Journal.configure verbose (logFile.name?.map FilePath.ofText)
    match opened with
    | .error fault => return (j, .brokenOff (.file fault))
    | .ok () =>
      if logFile = .nameless then return (j, .brokenOff .namelessLogFile)
      else return (j, ← printing greeting (proceed parse j path dry))

/-- The program, from the words of its command line. -/
def main (j : Journal) (arguments : List Text) : m (Journal × Outcome) :=
  mainWith (Yaml.read Settings.documentDepth) j arguments

end TraitDoc.Program
