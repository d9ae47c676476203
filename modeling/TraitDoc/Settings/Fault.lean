import TraitDoc.Text.Basic
/-!
# Faults of settings documents

Why a settings document does not say the settings of a project, and what a user
is told about it.
-/

namespace TraitDoc

/-- Why a settings document does not say the settings of a project. -/
inductive SettingsFault
  /-- It is not a document. -/
  | unreadable
  /-- Its root is not a mapping. -/
  | noMapping
  /-- A directory is not given as a text, or as a blank one. -/
  | noDirectory (key : Text)
  /-- The filenames are not given as a list. -/
  | noFilenames
  /-- A filename is not given as a text, or as a blank one. -/
  | blankFilename
  /-- A filename begins at the root. -/
  | absoluteFilename (name : Text)
  /-- The patches are not given as texts under texts. -/
  | noPatches
  /-- A suffix is not given as a text that begins with a dot. -/
  | noSuffix (key : Text)
deriving DecidableEq, Repr

/-- The fault in words. -/
def SettingsFault.message : SettingsFault → Text
  | .unreadable => "Failed to parse .tagdoc.yml".toList
  | .noMapping => ".tagdoc.yml must contain a mapping at the root".toList
  | .noDirectory key => key ++ " must be a non-empty string".toList
  | .noFilenames => "filenames must be a list of relative paths".toList
  | .blankFilename => "filenames entries must be non-empty strings".toList
  | .absoluteFilename name => "filenames entries must be relative: ".toList ++ name
  | .noPatches => "patches must map filenames to literal suffixes".toList
  | .noSuffix key => key ++ " must be a string starting with '.'".toList

end TraitDoc
