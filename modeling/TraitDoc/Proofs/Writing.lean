import TraitDoc.Proofs.Growth
import TraitDoc.Proofs.Loading
/-!
# Writing in a workspace

The second phase of a run stores the trait files one after the other. Storing a
file makes the directories above it and then writes its contents. Where that
fails, at most directories have been made, and the phase ends: the files before
it are stored, and nothing of the files behind it is there.

## Main definitions

* `Workspace.withTree` — the workspace with another tree.
* `TraitFile.Stored` — the change of the tree when one trait file is stored.
* `StoredAll` — the same for a list of trait files.
* `Workspace.Refuses` — a trait file cannot be stored.

## Main statements

* `Workspace.makeDirectories_eq` — what making directories leaves.
* `Workspace.run_writeTraits` — what the phase leaves, and when it fails.
-/

namespace TraitDoc

open FileTree (DirectoriesMade)

/-! ## Storing -/

/-- The trait file has been stored: directories above it have been made, and then its contents written. -/
def TraitFile.Stored (standing : Standing) (file : TraitFile) (before after : FileTree) : Prop :=
  ∃ tree, DirectoriesMade standing file.path.parent before tree ∧
    tree.write standing file.path (Text.encode file.contents) = .ok after

/-- The trait files have been stored one after the other. -/
inductive StoredAll (standing : Standing) : FileTree → List TraitFile → FileTree → Prop
  | nil (t : FileTree) : StoredAll standing t [] t
  | cons {t u v : FileTree} {file : TraitFile} {files : List TraitFile}
    (hfile : file.Stored standing t u) (hfiles : StoredAll standing u files v) :
    StoredAll standing t (file :: files) v

namespace Workspace

/-- The workspace with another tree. -/
def withTree (w : Workspace) (tree : FileTree) : Workspace := { w with tree }

/-- An operation that changes the tree succeeds with another tree, or fails and leaves all as it was. -/
theorem change_cases (w : Workspace) (p : FilePath)
    (operation : FileTree → Standing → FilePath → Except FileCause FileTree) :
    (∃ tree, operation w.tree w.standing p = .ok tree ∧
      w.change p operation = (.ok (), w.withTree tree)) ∨
    ∃ fault, w.change p operation = (.error fault, w) := by
  unfold change answer
  by_cases hnull : '\x00' ∈ p.toText
  · rw [if_pos hnull]
    exact .inr ⟨_, rfl⟩
  · rw [if_neg hnull]
    cases operation w.tree w.standing p with
    | error cause => exact .inr ⟨_, rfl⟩
    | ok tree => exact .inl ⟨tree, rfl, rfl⟩

/-! ## Making directories -/

/-- Directories have been made at `p` or on the way to it, and all else is as it was. -/
private def SameButDirectories (p : FilePath) (w v : Workspace) : Prop :=
  ∃ tree, v = w.withTree tree ∧ DirectoriesMade w.standing p w.tree tree

private instance (p : FilePath) : IsPreorder Workspace (SameButDirectories p) where
  refl w := ⟨w.tree, rfl, .none _⟩
  trans := by
    rintro w _ _ ⟨_, rfl, hfirst⟩ ⟨tree, rfl, hthen⟩
    exact ⟨tree, rfl, hfirst.trans hthen⟩

/-- Making directories makes directories on the way, and changes nothing else. -/
theorem makeDirectories_eq (w : Workspace) (p : FilePath) : ∃ answer tree,
    w.ask (Host.makeDirectories p) = (answer, w.withTree tree) ∧
      DirectoriesMade w.standing p w.tree tree := by
  have hkind : ∀ q, Leads (SameButDirectories p) (Host.kind q) := fun q w =>
    ⟨w.tree, rfl, .none _⟩
  have hmake : ∀ names, names <+: p.names →
      Leads (SameButDirectories p) (Host.makeDirectory ⟨p.anchor, names⟩) := by
    intro names hnames w
    show SameButDirectories p w (w.change ⟨p.anchor, names⟩ FileTree.makeDirectory).2
    rcases change_cases w ⟨p.anchor, names⟩ FileTree.makeDirectory with
      ⟨tree, htree, hchange⟩ | ⟨fault, hchange⟩
    · rw [hchange]
      exact ⟨tree, rfl, .more hnames htree (.none tree)⟩
    · rw [hchange]
      exact ⟨w.tree, rfl, .none _⟩
  obtain ⟨tree, htree, hmade⟩ := Leads.makeDirectories hkind hmake w
  exact ⟨_, tree, Prod.ext rfl htree, hmade⟩

/-! ## The second phase -/

/--
The host does not let the trait file be stored: the directories above it cannot
all be made, or they are there and the file cannot be written.
-/
def Refuses (w : Workspace) (file : TraitFile) (fault : FileFault) (tree : FileTree) : Prop :=
  w.ask (Host.makeDirectories file.path.parent) = (.error fault, w.withTree tree) ∨
    w.ask (Host.makeDirectories file.path.parent) = (.ok (), w.withTree tree) ∧
      (w.withTree tree).ask (Host.write file.path (Text.encode file.contents)) =
        (.error fault, w.withTree tree)

theorem Refuses.directoriesMade {w : Workspace} {file : TraitFile} {fault : FileFault}
    {tree : FileTree} (h : w.Refuses file fault tree) :
    DirectoriesMade w.standing file.path.parent w.tree tree := by
  obtain ⟨answer, tree', hmake, hmade⟩ := makeDirectories_eq w file.path.parent
  have hsame : w.withTree tree' = w.withTree tree := by
    rcases h with h | ⟨h, -⟩
    · exact (Prod.mk.inj (hmake.symm.trans h)).2
    · exact (Prod.mk.inj (hmake.symm.trans h)).2
  have htree : tree' = tree := congrArg Workspace.tree hsame
  rw [← htree]
  exact hmade

variable {j : Journal}

/-- A trait file is stored, or the host refuses to. -/
theorem run_writeTrait (hj : j.WritesNoFile) (w : Workspace) (file : TraitFile) :
    (∃ tree errors, file.Stored w.standing w.tree tree ∧
      w.run (Run.writeTrait j file) = (.ok (), (w.withTree tree).withErrors errors)) ∨
    ∃ fault tree, w.Refuses file fault tree ∧
      w.run (Run.writeTrait j file) = (.error (.file fault), w.withTree tree) := by
  obtain ⟨answer, tree, hmake, hmade⟩ := makeDirectories_eq w file.path.parent
  have hwrite : (w.withTree tree).ask (Host.writeText file.path file.contents) =
      (w.withTree tree).change file.path fun t standing p =>
        t.write standing p (Text.encode file.contents) := rfl
  unfold Run.writeTrait
  rw [run_bind, run_fromFile, hmake]
  cases answer with
  | error fault => exact .inr ⟨fault, tree, .inl hmake, rfl⟩
  | ok _ =>
    dsimp only [Except.mapError]
    rw [run_bind, run_fromFile]
    rcases change_cases (w.withTree tree) file.path fun t standing p =>
      t.write standing p (Text.encode file.contents) with ⟨tree', htree', hchange⟩ | ⟨fault, hchange⟩
    · rw [hwrite, hchange]
      obtain ⟨errors, htell⟩ := run_tell hj (w.withTree tree') .debug
        ("Wrote ".toList ++ file.path.toText)
      exact .inl ⟨tree', errors, ⟨tree, hmade, htree'⟩, htell⟩
    · rw [hwrite, hchange]
      exact .inr ⟨fault, tree, .inr ⟨hmake, hwrite.trans hchange⟩, rfl⟩

/--
**The second phase stores all trait files, or the host refuses to store one of
them; then the ones before it are stored, and the phase ends there.**
-/
theorem run_writeTraits (hj : j.WritesNoFile) :
    ∀ (files : List TraitFile) (w : Workspace),
      (∃ tree errors, StoredAll w.standing w.tree files tree ∧
        w.run (Run.writeTraits j files) = (.ok (), (w.withTree tree).withErrors errors)) ∨
      ∃ done file rest stored fault tree errors, files = done ++ file :: rest ∧
        StoredAll w.standing w.tree done stored ∧
        ((w.withTree stored).withErrors errors).Refuses file fault tree ∧
        w.run (Run.writeTraits j files) =
          (.error (.file fault), (w.withTree tree).withErrors errors) := by
  intro files
  induction files with
  | nil => intro w; exact .inl ⟨w.tree, w.errors, .nil _, rfl⟩
  | cons file files ih =>
    intro w
    unfold Run.writeTraits
    rw [run_bind]
    rcases run_writeTrait hj w file with ⟨tree, errors, hstored, hrun⟩ | ⟨fault, tree, hrefuses, hrun⟩
    · rw [hrun]
      rcases ih ((w.withTree tree).withErrors errors) with
        ⟨tree', errors', hrest, hrun'⟩ |
          ⟨done, next, rest, stored, fault, tree', errors', hfiles, hdone, hrefuses, hrun'⟩
      · exact .inl ⟨tree', errors', .cons hstored hrest, hrun'⟩
      · exact .inr ⟨file :: done, next, rest, stored, fault, tree', errors', by rw [hfiles]; rfl,
          .cons hstored hdone, hrefuses, hrun'⟩
    · rw [hrun]
      exact .inr ⟨[], file, files, w.tree, fault, tree, w.errors, rfl, .nil _, hrefuses, rfl⟩

end Workspace

end TraitDoc
