/-!
# Faults of YAML documents

Why a text gives no value. Most texts fail because they are not a well-formed
document of known types. Some are well formed and fail only when a scalar is
read as the type it has or is marked with.
-/

namespace TraitDoc.Yaml

/-- Why a text gives no value. -/
inductive Fault
  /-- The text is not one well-formed document of known types. -/
  | malformed
  /-- A number, date or character code is spelled like one and denotes none. -/
  | impossible
  /-- A number or a character code is out of the range in which it is computed. -/
  | outOfRange
  /-- A scalar that is marked as a boolean is none of the words for one. -/
  | unknownBoolean
  /-- A scalar that is marked as a number has no digits at all. -/
  | emptyNumber
  /-- A scalar that is marked as a date has not the form of one. -/
  | notTimestamp
  /-- A mapping is marked as a date. -/
  | mappedTimestamp
  /-- A mapping that stands for the value under its value key is that value, or lies in it. -/
  | endless
deriving DecidableEq, Repr

end TraitDoc.Yaml
