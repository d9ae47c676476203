import Std.Time.Format
import TraitDoc.Program
/-!
# The command

The program on the system that it is started on. This is the outer layer: it
asks the system for what a host answers, and decides nothing.

The system's refusals are told by their numbers. A failure that the program does
not handle is told in a few words and ends in the exit code one.

## Main definitions

* the instance of `Host` on `IO`.
* `main` — the command.
-/

namespace TraitDoc.Command

/-! ## Refusals -/

/-- The number and the words of a refusal, where it has a number. -/
def numbered? : IO.Error → Option (UInt32 × String)
  | .alreadyExists _ n s | .interrupted _ n s | .noFileOrDirectory _ n s
  | .invalidArgument _ n s | .permissionDenied _ n s | .resourceExhausted _ n s
  | .inappropriateType _ n s | .noSuchThing _ n s => some (n, s)
  | .otherError n s | .resourceBusy n s | .resourceVanished n s | .unsupportedOperation n s
  | .hardwareFault n s | .unsatisfiedConstraints n s | .illegalOperation n s
  | .protocolError n s | .timeExpired n s => some (n, s)
  | .unexpectedEof | .userError _ => none

/-- The number of a refusal, which some operations report as the negative one. -/
def absoluteNumber (n : UInt32) : Nat := min n.toNat (0 - n).toNat

/-- The causes that are told apart. -/
def knownCauses : List FileCause :=
  [.notFound, .alreadyExists, .notDirectory, .isDirectory, .nameTooLong, .linkLoop]

/-- The cause of a refusal. -/
def causeOf (error : IO.Error) : FileCause :=
  match numbered? error with
  | none => .other 5 (toString error).toList
  | some (n, words) =>
    let number := absoluteNumber n
    (knownCauses.find? (·.number == number)).getD (.other number words.toList)

/-- The answer to an operation at a path, where a path with a null character is refused beforehand. -/
def attempt {α : Type} (p : FilePath) (operation : String → IO α) : IO (Except FileFault α) := do
  if '\x00' ∈ p.toText then return .error .nullInPath
  try return .ok (← operation (String.ofList p.toText))
  catch error => return .error (.refused (causeOf error) (some p))

/-! ## Homes -/

/-- The account and the home directory in a line of the list of accounts. -/
def accountOf? (line : Text) : Option (Text × Text) :=
  match Text.splitAt ':' line with
  | [name, _, _, _, _, home, _] => some (name, home)
  | _ => none

/-- The home directories in the list of accounts. -/
def accounts (list : Text) : List (Text × Text) := (Text.splitAt '\n' list).filterMap accountOf?

/-- The list of accounts, empty where the system has none. -/
def accountList : IO Text := do
  try return ((← IO.FS.readFile "/etc/passwd").toList)
  catch _ => return []

/-- The home directories, that of the running account as its environment has it. -/
def homes : IO Homes := do
  let own := (← IO.getEnv "HOME").map String.toList
  let others := accounts (← accountList)
  return fun account => if account.isEmpty then own else others.lookup account

/-! ## The host -/

/-- What stands at a path. -/
def kind (path : String) : IO EntryKind := do
  let data ← (System.mkFilePath [path]).metadata
  return match data.type with
    | .dir => .directory
    | _ => .file

/-- Adds bytes at the end of a file, which is made if it is not there. -/
def extend (path : String) (content : ByteArray) : IO Unit := do
  let handle ← IO.FS.Handle.mk path .append
  handle.write content
  handle.flush

/-- Where the program stands. -/
def standing : IO (Except FileFault FilePath) := do
  try return .ok (.ofText (toString (← IO.currentDir)).toList)
  catch error => return .error (.refused (causeOf error) none)

/-- A path without `..`, by its names alone, read from where the program stands. -/
def resolve (p : FilePath) : IO (Except FileFault FilePath) := do
  if '\x00' ∈ p.toText then return .error .nullInPath
  if p.isAbsolute then return .ok (FilePath.resolved p p)
  return (← standing).map fun directory => FilePath.resolved directory p

/-- Prints on a stream, at once. -/
def print (stream : Stream) (text : Text) : IO (Except FileFault Unit) := do
  let out ← match stream with
    | .output => IO.getStdout
    | .errors => IO.getStderr
  try
    out.putStr (String.ofList text)
    return .ok (← out.flush)
  catch error => return .error (.refused (causeOf error) none)

/-- The local time, to the millisecond. -/
def now : IO Text := do
  return ((← Std.Time.PlainDateTime.now).format "uuuu-MM-dd HH:mm:ss,SSS").toList

instance : Host IO where
  standing := standing
  homes := homes
  resolve := resolve
  kind p := attempt p kind
  read p := attempt p fun path => IO.FS.readBinFile path
  writeText p text := attempt p fun path => IO.FS.writeBinFile path (Text.encode text)
  openFile p := attempt p fun path => extend path .empty
  append p content := attempt p fun path => do
    discard (kind path)
    extend path content
  makeDirectory p := attempt p fun path => IO.FS.createDir path
  now := now
  print := print

/-! ## The command -/

/-- What is told about a failure that the program does not handle. -/
def lastWords : Failure → String
  | .file fault => String.ofList fault.message
  | .notText => "a file holds bytes that encode no text"
  | .home _ => "a home directory cannot be found"
  | .namelessLogFile => "no name is given for the journal file"
  | .scalar _ => "a value in the settings document cannot be read"
  | .settings fault => String.ofList fault.message
  | .render fault => String.ofList fault.message

/-- The exit code for how the program ended, after its last words. -/
def finish : Program.Outcome → IO UInt32
  | .done => return 0
  | .exit code => return code.toUInt32
  | .brokenOff failure => do
    IO.eprintln ("tagdoc: " ++ lastWords failure)
    return 1

end TraitDoc.Command

/-- The command. -/
def main (arguments : List String) : IO UInt32 := do
  let words := arguments.map String.toList
  let (_, outcome) ← TraitDoc.Program.main TraitDoc.Journal.fresh words
  TraitDoc.Command.finish outcome
