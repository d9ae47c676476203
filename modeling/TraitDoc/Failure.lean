import TraitDoc.FileFault
import TraitDoc.Home
import TraitDoc.Settings.Fault
import TraitDoc.Trait
import TraitDoc.Yaml.Fault
/-!
# Failures

All that can go wrong in a run. Faults of the settings and of a source, and what
the system refuses, are meant for the user; they have words. The others show that
an assumption of the program does not hold, and have none.

## Main definitions

* `Failure` — what went wrong.
* `Failure.message?` — the words for it.
-/

namespace TraitDoc

/-- What went wrong. -/
inductive Failure
  | settings (fault : SettingsFault)
  | render (fault : RenderFault)
  | file (fault : FileFault)
  /-- A file that should hold a text holds bytes that encode none. -/
  | notText
  /-- A path begins in a home directory that cannot be found. -/
  | home (fault : HomeFault)
  /-- A file for the journal is asked for and not named. -/
  | namelessLogFile
  /-- A scalar of the settings document denotes no value of its type. -/
  | scalar (fault : Yaml.Fault)
deriving DecidableEq, Repr

namespace Failure

/-- The failure to read a settings document. -/
def ofYaml : Yaml.Fault → Failure
  | .malformed => .settings .unreadable
  | fault => .scalar fault

/-- What the user is told, where the failure is one for the user. -/
def message? : Failure → Option Text
  | .settings fault => some fault.message
  | .render fault => some fault.message
  | .file (.refused cause path) => some (FileFault.refused cause path).message
  | .file .unfit => none
  | .notText => none
  | .home _ => none
  | .namelessLogFile => none
  | .scalar _ => none

end Failure

end TraitDoc
