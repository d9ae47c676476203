import TraitDoc.Proofs.Denotation
import TraitDoc.Proofs.Overwriting
import TraitDoc.Proofs.Writing
/-!
# On the way to a file

A path that leads to a file leads through directories: whatever names it begins
with lead to a directory that is there. So nothing can be made on the way, and
to make the directories above the file, one after the other as far as they are
missing, is to find the last one there and to stop. Then the file can be
written: the host has no reason to refuse.

A program that stands in a removed directory needs some names to get out of it
before there are places at all. They are the only ones to which nothing in the
tree corresponds.

## Main statements

* `FileTree.walk_on_the_way` — the names before the last one lead to directories.
* `FileTree.eq_of_directoriesMade` — on the way to a file no directory is made.
* `Workspace.makeDirectories_of_holdsFile` — the directories above a file are there.
* `Workspace.not_refuses` — a file can be written over.
-/

namespace TraitDoc

/-! ## Out of removed directories -/

namespace Standing

theorem length_of_namesOutside {left : List Text} :
    ∀ {lost : Nat} {names : List Text}, namesOutside lost names = .ok (some left) →
      left.length + lost = names.length := by
  intro lost
  induction lost with
  | zero =>
    intro names h
    rw [Option.some.inj (Except.ok.inj h)]
    rfl
  | succ lost ih =>
    intro names h
    cases names with
    | nil => cases h
    | cons name names =>
      rw [namesOutside] at h
      split at h
      · have hlength := ih h
        rw [List.length_cons]
        omega
      · cases h

/-- Names that lead further than out of removed directories lead out without the last one. -/
theorem namesOutside_append_singleton {last : Text} {left : List Text} (hleft : left ≠ []) :
    ∀ {lost : Nat} {names : List Text}, namesOutside lost (names ++ [last]) = .ok (some left) →
      ∃ front, namesOutside lost names = .ok (some front) ∧ left = front ++ [last] := by
  intro lost
  induction lost with
  | zero =>
    intro names h
    exact ⟨names, rfl, (Option.some.inj (Except.ok.inj h)).symm⟩
  | succ lost ih =>
    intro names h
    cases names with
    | nil =>
      have hlength := length_of_namesOutside h
      have hpositive := List.length_pos_iff.2 hleft
      rw [List.nil_append, List.length_singleton] at hlength
      omega
    | cons name names =>
      rw [List.cons_append, namesOutside] at h
      rw [namesOutside]
      split at h
      · rename_i hname
        rw [if_pos hname]
        exact ih h
      · cases h

/-- Names that lead out of removed directories leave what is behind them as it is. -/
theorem namesOutside_append {left : List Text} (more : List Text) :
    ∀ {lost : Nat} {names : List Text}, namesOutside lost names = .ok (some left) →
      namesOutside lost (names ++ more) = .ok (some (left ++ more)) := by
  intro lost
  induction lost with
  | zero =>
    intro names h
    rw [← Option.some.inj (Except.ok.inj h)]
    rfl
  | succ lost ih =>
    intro names h
    cases names with
    | nil => cases h
    | cons name names =>
      rw [namesOutside] at h
      rw [List.cons_append, namesOutside]
      split at h
      · rename_i hname
        rw [if_pos hname]
        exact ih h
      · cases h

theorem enter_eq_ok_iff {standing : Standing} {names rest : List Text} {first : Place} :
    standing.enter names = .ok (some (first, rest)) ↔
      first = standing.place ∧ namesOutside standing.lost names = .ok (some rest) := by
  rw [enter]
  cases namesOutside standing.lost names with
  | error cause => simp [Except.map]
  | ok left =>
    cases left with
    | none => simp [Except.map]
    | some left => simp [Except.map, eq_comm]

end Standing

/-! ## Directories on the way -/

namespace FileTree

variable {t u v : FileTree} {standing : Standing} {p : FilePath} {place : Place}

theorem walk_append_eq_ok_iff {front more : List Text} {first last : Place} :
    t.walk first (front ++ more) = .ok last ↔
      ∃ mid, t.walk first front = .ok mid ∧ t.walk mid more = .ok last := by
  induction front generalizing first with
  | nil => simp [walk]
  | cons name front ih =>
    rw [List.cons_append, walk_cons_eq_ok_iff, ih]
    constructor
    · intro h
      obtain ⟨hstep, hthere, mid, hfront, hmore⟩ := h
      exact ⟨mid, walk_cons_eq_ok_iff.2 ⟨hstep, hthere, hfront⟩, hmore⟩
    · intro h
      obtain ⟨mid, hwalk, hmore⟩ := h
      obtain ⟨hstep, hthere, hfront⟩ := walk_cons_eq_ok_iff.1 hwalk
      exact ⟨hstep, hthere, mid, hfront, hmore⟩

/-- Where more names lead on, the names before them lead to a directory. -/
theorem Leads.on_the_way {first : Place} {names more : List Text}
    (h : t.Leads first (names ++ more) place) (hmore : more ≠ []) :
    ∃ dir, t.walk first names = .ok dir ∧ t.entry? dir = some .directory := by
  rw [← List.dropLast_concat_getLast hmore, ← List.append_assoc, leads_append_singleton_iff] at h
  obtain ⟨above, hwalk, hlast⟩ := h
  obtain ⟨dir, hnames, hrest⟩ := walk_append_eq_ok_iff.1 hwalk
  refine ⟨dir, hnames, ?_⟩
  cases hfront : more.dropLast with
  | nil =>
    rw [hfront] at hrest
    rw [Except.ok.inj hrest]
    exact (step_eq_ok_iff.1 hlast).1
  | cons name front =>
    rw [hfront] at hrest
    exact (step_eq_ok_iff.1 (walk_cons_eq_ok_iff.1 hrest).1).1

/-- A walk leads to where it ends. -/
theorem leads_of_walk {first last : Place} {names : List Text}
    (h : t.walk first names = .ok last) : t.Leads first names last := by
  by_cases hnil : names = []
  · rw [hnil] at h ⊢
    exact leads_nil_iff.2 (Except.ok.inj h).symm
  · rw [← List.dropLast_concat_getLast hnil] at h ⊢
    obtain ⟨dir, hfront, hlast⟩ := walk_append_eq_ok_iff.1 h
    obtain ⟨hstep, -, hend⟩ := walk_cons_eq_ok_iff.1 hlast
    rw [← Except.ok.inj hend]
    exact leads_append_singleton_iff.2 ⟨dir, hfront, hstep⟩

/-- A path that leads to a file has a last name, and the names before it can be followed. -/
theorem exists_last_of_holdsFile (hstands : t.Carries standing)
    (hleads : t.target standing p = .ok (some place)) (hfile : t.HoldsFile place) :
    p.names ≠ [] ∧ ∃ first left,
      (p.start standing).enter p.parent.names = .ok (some (first, left)) := by
  obtain ⟨-, first, left, henter, hnames⟩ := target_eq_some_iff.1 hleads
  obtain ⟨hfirst, houtside⟩ := Standing.enter_eq_ok_iff.1 henter
  have hleft : left ≠ [] := by
    intro hnil
    rw [hnil, leads_nil_iff] at hnames
    obtain ⟨content, hcontent⟩ := hfile
    rw [hnames, hfirst, entry?_start hstands p] at hcontent
    cases hcontent
  have hnil : p.names ≠ [] := by
    have hlength := Standing.length_of_namesOutside houtside
    have hpositive := List.length_pos_iff.2 hleft
    exact List.length_pos_iff.1 (by omega)
  rw [← List.dropLast_concat_getLast hnil] at houtside
  obtain ⟨front, hfront, -⟩ := Standing.namesOutside_append_singleton hleft houtside
  exact ⟨hnil, first, front, Standing.enter_eq_ok_iff.2 ⟨hfirst, hfront⟩⟩

/-- The names before the last one of a path to a file are followed through directories. -/
theorem walk_on_the_way (hstands : t.Carries standing)
    (hleads : t.target standing p = .ok (some place)) (hfile : t.HoldsFile place)
    {names left : List Text} {first : Place} (hnames : names <+: p.parent.names)
    (henter : (p.start standing).enter names = .ok (some (first, left))) :
    ∃ dir, t.walk first left = .ok dir ∧ t.entry? dir = some .directory := by
  obtain ⟨hnil, -⟩ := exists_last_of_holdsFile hstands hleads hfile
  obtain ⟨-, start, all, hall, hplace⟩ := target_eq_some_iff.1 hleads
  obtain ⟨more, hmore⟩ := hnames
  have hsplit : p.names = names ++ (more ++ [p.names.getLast hnil]) := by
    rw [← List.append_assoc, hmore]
    exact (List.dropLast_concat_getLast hnil).symm
  obtain ⟨hfirst, houtside⟩ := Standing.enter_eq_ok_iff.1 henter
  obtain ⟨hstart, hlast⟩ := Standing.enter_eq_ok_iff.1 hall
  have hboth := Standing.namesOutside_append (more ++ [p.names.getLast hnil]) houtside
  rw [← hsplit, hlast] at hboth
  have heq : all = left ++ (more ++ [p.names.getLast hnil]) :=
    Option.some.inj (Except.ok.inj hboth)
  rw [heq, hstart, ← hfirst] at hplace
  exact hplace.on_the_way (by simp)

/-- A path at the beginning of one that leads to a file leads to a directory, if anywhere. -/
theorem directory_on_the_way (hstands : t.Carries standing)
    (hleads : t.target standing p = .ok (some place)) (hfile : t.HoldsFile place)
    {names : List Text} (hnames : names <+: p.parent.names) {dir : Place}
    (hdir : t.target standing ⟨p.anchor, names⟩ = .ok (some dir)) :
    t.entry? dir = some .directory := by
  obtain ⟨-, first, left, henter, hdirleads⟩ := target_eq_some_iff.1 hdir
  obtain ⟨there, hwalk, hthere⟩ := walk_on_the_way hstands hleads hfile hnames henter
  have hplace : dir = there := by
    rw [hdirleads.eq_foldl, eq_foldl_of_walk hwalk]
  rw [hplace]
  exact hthere

/-- On the way to a file no directory is made. -/
theorem eq_of_directoriesMade (hstands : t.Carries standing)
    (hleads : t.target standing p = .ok (some place)) (hfile : t.HoldsFile place)
    (h : DirectoriesMade standing p.parent t u) : u = t := by
  cases h with
  | none => rfl
  | more hnames hmake hrest =>
    obtain ⟨dir, hdir, hnone, -⟩ := makeDirectory_eq_ok_iff.1 hmake
    rw [directory_on_the_way hstands hleads hfile hnames hdir] at hnone
    cases hnone

end FileTree

/-! ## The directory above -/

namespace Text

theorem byteLength_append (s t : Text) : (s ++ t).byteLength = s.byteLength + t.byteLength := by
  induction s with
  | nil => rw [List.nil_append, byteLength, Nat.zero_add]
  | cons c s ih => rw [List.cons_append, byteLength, byteLength, ih, Nat.add_assoc]

/-- A last word comes behind a mark, where there are words before it. -/
theorem joinWith_append_singleton {mark : Char} {front : List Text} (h : front ≠ [])
    (last : Text) : joinWith mark (front ++ [last]) = joinWith mark front ++ mark :: last := by
  induction front with
  | nil => exact absurd rfl h
  | cons first front ih =>
    cases front with
    | nil => simp [joinWith, List.intercalate]
    | cons second front =>
      have hlater : List.intercalate [mark] (second :: (front ++ [last])) =
          List.intercalate [mark] (second :: front) ++ mark :: last := ih (List.cons_ne_nil _ _)
      rw [joinWith, joinWith, List.cons_append, List.cons_append, List.intercalate_cons_cons,
        List.intercalate_cons_cons, hlater]
      simp

theorem joinWith_prefix (mark : Char) (front : List Text) (last : Text) :
    joinWith mark front <+: joinWith mark (front ++ [last]) := by
  by_cases h : front = []
  · rw [h]
    exact List.nil_prefix
  · rw [joinWith_append_singleton h]
    exact List.prefix_append _ _

end Text

namespace FilePath

theorem toText_of_names {p : FilePath} (h : p.names ≠ []) :
    p.toText = p.anchor.toText ++ Text.joinWith '/' p.names := by
  rw [toText]
  split
  · rename_i hnil
    exact absurd hnil h
  · rfl

/-- The spelling of the directory of a path begins the spelling of the path. -/
theorem toText_parent {p : FilePath} (h : p.names ≠ []) :
    p.parent.toText = stay ∨ p.parent.toText <+: p.toText := by
  have hwhole : p.anchor.toText ++ Text.joinWith '/' p.names.dropLast <+: p.toText := by
    rw [toText_of_names h, ← List.dropLast_concat_getLast h, List.dropLast_concat]
    exact (List.prefix_append_right_inj _).2 (Text.joinWith_prefix '/' _ _)
  rw [toText]
  split
  · exact .inl rfl
  · exact .inr hwhole

theorem toText_join {p : FilePath} (h : p.names ≠ []) (name : Text) :
    (p.join ⟨.here, [name]⟩).toText = p.toText ++ '/' :: name := by
  have hnames : (p.join ⟨.here, [name]⟩).names ≠ [] := by
    show p.names ++ [name] ≠ []
    simp
  rw [toText_of_names hnames, toText_of_names h, List.append_assoc,
    ← Text.joinWith_append_singleton h]
  rfl

/-- A name without the null character brings none into a path. -/
theorem null_mem_join_iff {p : FilePath} {name : Text} (hname : '\x00' ∉ name) :
    '\x00' ∈ (p.join ⟨.here, [name]⟩).toText ↔ '\x00' ∈ p.toText := by
  by_cases h : p.names = []
  · obtain ⟨anchor, names⟩ := p
    obtain rfl : names = [] := h
    have hjoin : ((⟨anchor, []⟩ : FilePath).join ⟨.here, [name]⟩).toText = anchor.toText ++ name := by
      cases anchor <;> simp [join, isAbsolute, toText, Text.joinWith, List.intercalate]
    rw [hjoin]
    cases anchor <;> simp [hname, toText, Anchor.toText, stay, Text.joinWith]
  · rw [toText_join h]
    simp [hname]

theorem null_not_mem_parent {p : FilePath} (h : p.names ≠ []) (hnull : '\x00' ∉ p.toText) :
    '\x00' ∉ p.parent.toText := by
  rcases toText_parent h with hstay | hbegins
  · rw [hstay]
    decide
  · exact fun hin => hnull (hbegins.subset hin)

end FilePath

namespace FileTree

variable {t : FileTree} {standing : Standing} {p : FilePath} {place : Place}

/-- The directory of a path that leads to a file is there. -/
theorem target_parent (hstands : t.Carries standing)
    (hleads : t.target standing p = .ok (some place)) (hfile : t.HoldsFile place) :
    ∃ dir, t.target standing p.parent = .ok (some dir) ∧ t.entry? dir = some .directory := by
  obtain ⟨hnames, first, left, henter⟩ := exists_last_of_holdsFile hstands hleads hfile
  have hshort : p.parent.toText.byteLength ≤ pathLimit := by
    have hwhole := (target_eq_some_iff.1 hleads).1
    rcases FilePath.toText_parent hnames with hstay | ⟨rest, hrest⟩
    · rw [hstay]
      decide
    · rw [← hrest, Text.byteLength_append] at hwhole
      omega
  obtain ⟨dir, hwalk, hdir⟩ :=
    walk_on_the_way hstands hleads hfile (List.prefix_refl _) henter
  exact ⟨dir, target_eq_some_iff.2 ⟨hshort, first, left, henter, leads_of_walk hwalk⟩, hdir⟩

end FileTree

/-! ## Writing over a file -/

open FileTree

namespace Workspace

variable {w : Workspace} {p : FilePath} {place : Place}

theorem answer_of_not_mem {α : Type} (hnull : '\x00' ∉ p.toText)
    (operation : FileTree → Standing → FilePath → Except FileCause α) :
    w.answer p operation = (operation w.tree w.standing p).mapError
      fun cause => .refused cause (some p) := by
  rw [answer, if_neg hnull]
  cases operation w.tree w.standing p with
  | error cause => rfl
  | ok a => rfl

theorem answer_eq_ok_iff {α : Type} {a : α}
    {operation : FileTree → Standing → FilePath → Except FileCause α} :
    w.answer p operation = .ok a ↔
      '\x00' ∉ p.toText ∧ operation w.tree w.standing p = .ok a := by
  by_cases hnull : '\x00' ∈ p.toText
  · simp [answer, hnull]
  · rw [answer_of_not_mem hnull, and_iff_right hnull, mapError_eq_ok_iff]

/-- A directory that is there need not be made. -/
theorem ensureDirectory_of_there (hnull : '\x00' ∉ p.toText)
    (hleads : w.tree.target w.standing p = .ok (some place))
    (hdir : w.tree.entry? place = some .directory) :
    w.ask (Host.ensureDirectory p) = (.ok (), w) := by
  obtain ⟨entries, hentries⟩ := at?_of_entry?_eq_directory hdir
  have hrefused : FileTree.makeDirectory w.tree w.standing p = .error .alreadyExists := by
    rw [FileTree.makeDirectory, hleads]
    simp [bind, Except.bind, hentries, throw, throwThe, MonadExceptOf.throw]
  have hmake : w.ask (Host.makeDirectory p) =
      (.error (.refused .alreadyExists (some p)), w) := by
    show w.change p FileTree.makeDirectory = _
    rw [change, answer_of_not_mem hnull, hrefused]
    rfl
  have hfound : find w.tree w.standing p = .ok (.directory entries) := by
    rw [find, hleads]
    simp [bind, Except.bind, hentries, pure, Except.pure]
  have hkind : w.kind p = .ok .directory := by
    rw [kind, answer_of_not_mem hnull, hfound]
    rfl
  have hthere : w.ask (Host.isDirectory p) = (.ok true, w) := by
    rw [ask_isDirectory, entryKind?, hkind]
    rfl
  unfold Host.ensureDirectory
  rw [ask_bind hmake]
  dsimp only
  rw [ask_bind hthere]
  rfl

/-- A directory that is there need not be made, nor anything above it. -/
theorem makeDirectories_of_there (hnull : '\x00' ∉ p.toText)
    (hleads : w.tree.target w.standing p = .ok (some place))
    (hdir : w.tree.entry? place = some .directory) :
    w.ask (Host.makeDirectories p) = (.ok (), w) := by
  have hensure := ensureDirectory_of_there hnull hleads hdir
  unfold Host.makeDirectories
  cases hnames : p.names.reverse with
  | nil =>
    have hp : p = ⟨p.anchor, []⟩ := by
      rw [← List.reverse_eq_nil_iff.1 hnames]
    rw [hp] at hensure
    exact hensure
  | cons last above =>
    have hp : p = ⟨p.anchor, (last :: above).reverse⟩ := by
      rw [← hnames, List.reverse_reverse]
    rw [hp] at hensure
    unfold Host.makeDirectoriesUp
    rw [ask_bind hensure]
    rfl

/-- The directories above a file are there. -/
theorem makeDirectories_of_holdsFile (hstands : w.tree.Carries w.standing)
    (hnull : '\x00' ∉ p.toText) (hleads : w.tree.target w.standing p = .ok (some place))
    (hfile : w.tree.HoldsFile place) :
    w.ask (Host.makeDirectories p.parent) = (.ok (), w) := by
  obtain ⟨hnames, -⟩ := exists_last_of_holdsFile hstands hleads hfile
  obtain ⟨dir, hdir, hthere⟩ := target_parent hstands hleads hfile
  exact makeDirectories_of_there (FilePath.null_not_mem_parent hnames hnull) hdir hthere

/-- A trait file can be stored over a file. -/
theorem not_refuses {file : TraitFile} {fault : FileFault} {tree : FileTree}
    (hstands : w.tree.Carries w.standing) (hnull : '\x00' ∉ file.path.toText)
    (hleads : w.tree.target w.standing file.path = .ok (some place))
    (hfile : w.tree.HoldsFile place) : ¬ w.Refuses file fault tree := by
  have hmake := makeDirectories_of_holdsFile hstands hnull hleads hfile
  have hfree : w.tree.entry? place ≠ some .directory := by
    obtain ⟨content, hcontent⟩ := hfile
    rw [hcontent]
    simp
  have hwrite : w.tree.write w.standing file.path (Text.encode file.contents) = .ok _ :=
    write_eq_ok_iff.2 ⟨place, hleads, hfree, rfl⟩
  intro h
  rcases h with h | ⟨h, hrefused⟩
  · rw [hmake] at h
    cases (Prod.mk.inj h).1
  · have hsame : w.withTree tree = w := by
      rw [hmake] at h
      exact (Prod.mk.inj h).2.symm
    rw [hsame] at hrefused
    have hchange : w.change file.path (fun t standing p =>
        t.write standing p (Text.encode file.contents)) = (.error fault, w) := hrefused
    rw [change, answer_of_not_mem hnull, hwrite] at hchange
    cases (Prod.mk.inj hchange).1

end Workspace
end TraitDoc
