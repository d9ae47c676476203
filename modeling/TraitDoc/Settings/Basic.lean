import TraitDoc.FilePath
/-!
# Settings

What a run works on: where the annotation sources are, where their trait files
go, the names of the files, the suffixes of both kinds, and literal patches that
some trait files end with.

A file's name is a path below the source directory. Its trait file has the same
path below the target directory, with the source suffix, if the name ends in
it, replaced by the target suffix. The name that the file declares is the last
part of its path without the source suffix.

## Main definitions

* `Settings`, `Settings.defaults` — the settings of a project.
* `Settings.sourcePath`, `Settings.targetPath`, `Settings.declaredName` — what
  follows from a file's name.

## Main statements

* `Settings.stem_of_not_suffix` — a name without the suffix is its own stem.
-/

namespace TraitDoc

/-- The settings of a project. -/
structure Settings where
  /-- The directory of the project. -/
  root : FilePath
  sourceDir : FilePath
  targetDir : FilePath
  filenames : List Text
  sourceSuffix : Text
  targetSuffix : Text
  /-- What is added to the trait files of some names. -/
  patches : List (Text × Text)
deriving DecidableEq, Repr

/-! ## Defaults -/

/-- The file that holds the settings of a project. -/
def settingsFile : Text := ".tagdoc.yml".toList

namespace Default

/-- Where the sources are, from the root of the project. -/
def sourceDir : FilePath := .ofText "src/main/java/org/scalatest".toList

/-- Where the trait files go, from the root of the project. -/
def targetDir : FilePath := .ofText "target/docsrc/org/scalatest".toList

/-- The annotations of the test library. -/
def filenames : List Text :=
  ["DoNotDiscover.java", "Ignore.java", "Finders.java", "TagAnnotation.java", "WrapWith.java",
   "tags/ChromeBrowser.java", "tags/FirefoxBrowser.java", "tags/HtmlUnitBrowser.java",
   "tags/InternetExplorerBrowser.java", "tags/SafariBrowser.java", "tags/Slow.java",
   "tags/CPU.java", "tags/Disk.java", "tags/Network.java", "tags/Retryable.java"].map
    String.toList

def sourceSuffix : Text := ".java".toList

def targetSuffix : Text := ".scala".toList

/-- The value member of this annotation has a default value, so it is declared by a patch. -/
def patches : List (Text × Text) :=
  [("TagAnnotation.java".toList, "\x7b def value: String\x7d".toList)]

end Default

namespace Settings

/-- The settings of the project at `root` that has none of its own. -/
def defaults (root : FilePath) : Settings where
  root := root
  sourceDir := root.join Default.sourceDir
  targetDir := root.join Default.targetDir
  filenames := Default.filenames
  sourceSuffix := Default.sourceSuffix
  targetSuffix := Default.targetSuffix
  patches := Default.patches

/-! ## What follows from a file's name -/

/-- The name without the source suffix, if it ends in it. -/
def stem (s : Settings) (name : Text) : Text :=
  if s.sourceSuffix.isSuffixOf name then Text.withoutEnd name s.sourceSuffix.length else name

theorem stem_of_not_suffix {s : Settings} {name : Text} (h : ¬ s.sourceSuffix <:+ name) :
    s.stem name = name := by
  rw [← List.isSuffixOf_iff_suffix] at h
  simp [stem, h]

/-- Where the source of a file is. -/
def sourcePath (s : Settings) (filename : Text) : FilePath := s.sourceDir.join (.ofText filename)

/-- Where the trait file of a file goes. -/
def targetPath (s : Settings) (filename : Text) : FilePath :=
  s.targetDir.join (.ofText (s.stem filename ++ s.targetSuffix))

/-- The name that a file declares. -/
def declaredName (s : Settings) (filename : Text) : Text := s.stem (Text.afterLast '/' filename)

/-- What is added to the trait file of a file. -/
def patch? (s : Settings) (filename : Text) : Option Text := s.patches.lookup filename

end Settings

end TraitDoc
