import TraitDoc.Host
import TraitDoc.Settings.Document
import TraitDoc.Text.Encoding
import TraitDoc.Yaml.Document
/-!
# Loading settings

A project is named by its directory, by its settings file, or by any other path
in its directory. All three lead to the settings file of that directory, which
need not be there: then the project has the default settings.

## Main definitions

* `Settings.locate` — the settings file that a path leads to.
* `Settings.load` — the settings of the project that a path names.
* `Settings.loadDefaults` — the default settings of a project.
-/

namespace TraitDoc

section

variable {m : Type → Type} [Monad m]

/-- The answer to a file operation, where a fault is a failure. -/
def fromFile {α : Type} (answer : m (Except FileFault α)) : ExceptT Failure m α :=
  ExceptT.mk do
    match ← answer with
    | .ok a => return .ok a
    | .error fault => return .error (.file fault)

/-- A result that has been computed already. -/
def fromExcept {α : Type} (result : Except Failure α) : ExceptT Failure m α :=
  ExceptT.mk (pure result)

/-- The text of a text file. -/
def readText [Host m] (p : FilePath) : ExceptT Failure m Text := do
  let bytes ← fromFile (Host.read p)
  match Text.ofFile? bytes with
  | some text => return text
  | none => throw .notText

end

namespace Settings

variable {m : Type → Type} [Monad m] [Host m]

/-- The path of the settings file in the directory to which a path leads, or in which it lies. -/
def fileFor (p : FilePath) (isDirectory : Bool) : FilePath :=
  if isDirectory then p.join ⟨.here, [settingsFile]⟩
  else if p.lastName = settingsFile then p
  else p.parent.join ⟨.here, [settingsFile]⟩

/-- The settings file that a path leads to, there or not. -/
def locate (p : FilePath) : ExceptT Failure m FilePath := do
  let homes ← ExceptT.lift Host.homes
  let p ← fromExcept ((p.expandHome homes).mapError .home)
  let isDirectory ← fromFile (Host.isDirectory p)
  fromFile (Host.resolve (fileFor p isDirectory))

/-- The settings that a settings file says when `parse` reads documents. -/
def loadFile (parse : Text → Except Yaml.Fault Yaml.Value) (file : FilePath) :
    ExceptT Failure m Settings := do
  if ← fromFile (Host.isThere file) then
    let text ← readText file
    let homes ← ExceptT.lift Host.homes
    fromExcept (ofText parse homes file.parent text)
  else return defaults file.parent

/-- The settings of the project that a path names, when `parse` reads documents. -/
def loadWith (parse : Text → Except Yaml.Fault Yaml.Value) (p : FilePath) :
    ExceptT Failure m Settings := do
  loadFile parse (← locate p)

/-- The settings of the project that a path names. -/
def load (p : FilePath) : ExceptT Failure m Settings := loadWith (Yaml.read documentDepth) p

/-- The settings of the project in a directory, had it none of its own. -/
def loadDefaults (root : FilePath) : ExceptT Failure m Settings := do
  return defaults (← fromFile (Host.resolve root))

end Settings

end TraitDoc
