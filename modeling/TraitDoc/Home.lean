import TraitDoc.FilePath
/-!
# Home directories

A relative path whose first name begins with `~` begins in a home directory: of
the account whose name follows, or of the account that runs the program where no
name follows. Which account has which home is for the system to say, so
everything here takes that as a function.

## Main definitions

* `Homes` — the home directories of accounts.
* `FilePath.expandHome` — a path that begins in no home directory by name.

## Main statements

* `FilePath.expandHome_eq_self` — a path that names no home directory stays as it is.
-/

namespace TraitDoc

/-- The home directories of accounts, with that of the running account under the empty name. -/
abbrev Homes := Text → Option Text

/-- Why a home directory cannot be found. -/
inductive HomeFault
  /-- There is no such account, or it has no home. -/
  | unknown
  /-- The name of the account holds the null character. -/
  | nullInName
deriving DecidableEq, Repr

namespace FilePath

/-- The account that the path names at its beginning. -/
def account? (p : FilePath) : Option Text :=
  match p.anchor, p.names with
  | .here, ('~' :: account) :: _ => some account
  | _, _ => none

/-- A home directory as it is joined with what follows: without slashes at its end, the root for none at all. -/
def ofHome (home : Text) : FilePath :=
  let home := Text.dropTrailing '/' home
  if home.isEmpty then ofText ['/'] else ofText home

/-- The path with the home directory that it names at its beginning spelled out. -/
def expandHome (homes : Homes) (p : FilePath) : Except HomeFault FilePath :=
  match p.account? with
  | none => .ok p
  | some account =>
    if '\x00' ∈ account then .error .nullInName
    else
      match homes account with
      | none => .error .unknown
      | some home =>
        if (Text.dropTrailing '/' home).head? = some '~' then .error .unknown
        else .ok ((ofHome home).join ⟨.here, p.names.tail⟩)

/-- A path that names no home directory stays as it is. -/
theorem expandHome_eq_self {homes : Homes} {p : FilePath} (h : p.account? = none) :
    p.expandHome homes = .ok p := by
  rw [expandHome, h]

end FilePath

end TraitDoc
