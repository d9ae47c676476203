import TraitDoc.Host
import TraitDoc.Text.Encoding
/-!
# The journal

What a run tells about itself goes to the journal. A message has a level and the
name of the part of the program it comes from. The journal has a level of its
own, and messages below it are dropped; the others go to each of its sinks, the
console and perhaps a file.

A journal that has not been set up drops everything below a warning and sends
the rest, bare, to the console. So does every journal with the messages of a
part whose name does not lead to the program. Setting it up starts afresh: the
sinks it had are gone. When the file cannot be opened, the journal is set up with
the console alone.

## Main definitions

* `Level`, `Sink`, `Journal` — the state.
* `Journal.configure` — setting up.
* `Journal.leadsToProgram`, `Journal.reachedBy` — whose messages a journal gets.
* `Journal.note` — one message.
* `Journal.forget` — what a removal of files does to the sinks.
* `Journal.view` — what can be asked of a journal under a name.
-/

namespace TraitDoc

/-- How much a message matters. -/
inductive Level
  | debug
  | info
  | warning
  | error
  | critical
deriving DecidableEq, Repr

namespace Level

/-- The levels in order. -/
def rank : Level → Nat
  | .debug => 10
  | .info => 20
  | .warning => 30
  | .error => 40
  | .critical => 50

/-- The word for a level. -/
def word : Level → Text
  | .debug => "DEBUG".toList
  | .info => "INFO".toList
  | .warning => "WARNING".toList
  | .error => "ERROR".toList
  | .critical => "CRITICAL".toList

instance : LE Level := ⟨fun a b => a.rank ≤ b.rank⟩

instance (a b : Level) : Decidable (a ≤ b) := inferInstanceAs (Decidable (a.rank ≤ b.rank))

end Level

/-- Where messages go. -/
inductive Sink
  | console
  | file (path : FilePath)
  /-- A file that has been removed since it was opened. -/
  | removedFile
deriving DecidableEq, Repr

/-- Which messages are kept, and where they go. -/
structure Journal where
  /-- The level below which messages are dropped, once it has been set. -/
  level : Option Level
  sinks : List Sink
deriving DecidableEq, Repr

namespace Journal

/-- A journal that has not been set up. -/
def fresh : Journal := ⟨none, []⟩

/-- The level below which messages are dropped. -/
def threshold (j : Journal) : Level := j.level.getD .warning

/-- The name of the whole program in the journal. -/
def programName : Text := "tagdoc".toList

/-- The full name of a part of the program, which is the whole one where the part has no name. -/
def fullName (part : Text) : Text :=
  if part.isEmpty then programName else programName ++ ['.'] ++ part

/--
Whether the name of a part leads to the program. A full name is cut at its dots from the end, and
a dot beside a cut is none; so there is no cut behind the name of the program if the name of the
part begins with an odd number of dots.

From two leading dots on this holds while no part is known whose name is made of fewer dots alone.
A cut behind the name of a known part ends the search, and the longer name goes where the shorter
one goes: once `.` is known, `..x` is lost as `.` is.
-/
def leadsToProgram (part : Text) : Bool := (part.takeWhile (· == '.')).length % 2 == 0

/-- The journal that the messages of a part reach. -/
def reachedBy (j : Journal) (part : Text) : Journal := if leadsToProgram part then j else fresh

/-! ## Messages -/

/-- A message as the console shows it. -/
def consoleLine (level : Level) (message : Text) : Text :=
  "[tagdoc] ".toList ++ level.word ++ [' '] ++ message ++ ['\n']

/-- A message as a file shows it. -/
def fileLine (time part : Text) (level : Level) (message : Text) : Text :=
  time ++ [' '] ++ level.word ++ [' '] ++ fullName part ++ ": ".toList ++ message ++ ['\n']

section

variable {m : Type → Type} [Monad m] [Host m]

/-- Sends a message to a sink; one that the sink does not take is lost. -/
def send (part : Text) (level : Level) (message : Text) : Sink → m Unit
  | .console => discard (Host.print .errors (consoleLine level message))
  | .file path => do
    let time ← Host.now
    discard (Host.append path (Text.encode (fileLine time part level message)))
  | .removedFile => pure ()

/-- Notes a message that comes from a part of the program. -/
def note (j : Journal) (part : Text) (level : Level) (message : Text) : m Unit := do
  let j := j.reachedBy part
  if j.threshold ≤ level then
    if j.level.isNone then discard (Host.print .errors (message ++ ['\n']))
    else j.sinks.forM (send part level message)

/-! ## Setting up -/

/-- A journal with the level that `verbose` asks for and with these sinks. -/
def withSinks (verbose : Bool) (sinks : List Sink) : Journal :=
  ⟨some (if verbose then .debug else .info), sinks⟩

/-- Sets the journal up, with a file if one is named; the journal goes with what became of the file. -/
def configure (verbose : Bool) (file : Option FilePath) : m (Journal × Except FileFault Unit) := do
  let plain := withSinks verbose [.console]
  match file with
  | none => return (plain, .ok ())
  | some file =>
    match ← Host.absolute file with
    | .error fault => return (plain, .error fault)
    | .ok path =>
      match ← Host.openFile path with
      | .error fault => return (plain, .error fault)
      | .ok () => return (withSinks verbose [.console, .file path], .ok ())

end

/-- The journal after a removal that leaves only the files for which `remains` holds. -/
def forget (j : Journal) (remains : FilePath → Bool) : Journal :=
  { j with
    sinks := j.sinks.map fun sink =>
      match sink with
      | .file path => if remains path then sink else .removedFile
      | sink => sink }

/-! ## Views -/

/-- What can be asked of a journal under the name of a part of the program. -/
structure View where
  name : Text
  level : Level
  /-- The number of sinks that hang on this name. -/
  sinkCount : Nat
  /-- Whether messages under this name also count as messages under the name above. -/
  propagates : Bool
deriving DecidableEq, Repr

/-- The journal seen under a name; the sinks hang on that of the whole program. -/
def view (j : Journal) (part : Text) : View where
  name := fullName part
  level := (j.reachedBy part).threshold
  sinkCount := if part.isEmpty then j.sinks.length else 0
  propagates := !part.isEmpty || j.level.isNone

end Journal

end TraitDoc
