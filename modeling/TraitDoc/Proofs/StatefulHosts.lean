import Mathlib.Order.Defs.Unbundled
import TraitDoc.Run
/-!
# Hosts with a state

A host is a monad, and mostly one that passes a state along. What a computation
does on such a host is told by its answer and by the state that it leaves:
`askIn` for a plain computation, `runIn` for one that can fail. One lemma for
each way to build computations takes such runs apart.

Much of what is to be said of a computation is about the states alone: that it
leaves a state which stands in some relation to the one before, as having the
same files, or more directories. `Leads` says so. If the relation is reflexive
and transitive, what holds for the operations of the host holds for whatever is
built of them.

## Main definitions

* `askIn`, `runIn` — a computation in a state.
* `Journal.WritesNoFile` — no sink of the journal is a file.
* `Leads` — a relation between the states before and after a computation.

## Main statements

* `askIn_bind`, `runIn_bind` — one computation after another.
* `Leads.makeDirectories`, `Leads.note`, `Leads.makeTraits` — where these
  lead, by what they ask of the host.
-/

namespace TraitDoc

/-- No sink of the journal is a file. -/
def Journal.WritesNoFile (j : Journal) : Prop := ∀ path, Sink.file path ∉ j.sinks

variable {σ α β : Type}

/-- What an operation answers in a state, and the state that it leaves. -/
def askIn (s : σ) (x : StateM σ α) : α × σ := x s

/-- What a computation answers in a state, and the state that it leaves. -/
def runIn (s : σ) (x : ExceptT Failure (StateM σ) α) : Except Failure α × σ := askIn s x.run

/-! ## Taking runs apart -/

theorem askIn_bind {s t : σ} {x : StateM σ α} {a : α} (h : askIn s x = (a, t))
    (f : α → StateM σ β) : askIn s (x >>= f) = askIn t (f a) := by
  show (match askIn s x with | (a, t) => askIn t (f a)) = _
  rw [h]

theorem runIn_bind (s : σ) (x : ExceptT Failure (StateM σ) α)
    (f : α → ExceptT Failure (StateM σ) β) :
    runIn s (x >>= f) = match runIn s x with
      | (.ok a, t) => runIn t (f a)
      | (.error failure, t) => (.error failure, t) := by
  rcases hx : runIn s x with ⟨failure | a, t⟩
  · exact askIn_bind hx (ExceptT.bindCont f)
  · exact askIn_bind hx (ExceptT.bindCont f)

/-- An operation that cannot fail answers. -/
theorem runIn_lift (s : σ) (x : StateM σ α) :
    runIn s (ExceptT.lift x) = (.ok (askIn s x).1, (askIn s x).2) := by
  rcases hask : askIn s x with ⟨a, t⟩
  exact askIn_bind hask fun a => pure (Except.ok a)

/-- A file operation runs alone, and its fault is a failure. -/
theorem runIn_fromFile (s : σ) (answer : StateM σ (Except FileFault α)) :
    runIn s (fromFile answer) = ((askIn s answer).1.mapError Failure.file, (askIn s answer).2) := by
  unfold fromFile
  rcases hanswer : askIn s answer with ⟨fault | a, t⟩
  · exact askIn_bind hanswer _
  · exact askIn_bind hanswer _

/-! ## Where computations lead -/

/-- Whatever state an operation starts in, `R` leads from there to the state that it leaves. -/
def Leads (R : σ → σ → Prop) (x : StateM σ α) : Prop := ∀ s, R s (askIn s x).2

namespace Leads

variable {R : σ → σ → Prop} [IsPreorder σ R]

theorem pure (a : α) : Leads R (pure a : StateM σ α) := fun s => Std.Refl.refl s

theorem bind {x : StateM σ α} {f : α → StateM σ β} (hx : Leads R x) (hf : ∀ a, Leads R (f a)) :
    Leads R (x >>= f) := by
  intro s
  have hfirst := hx s
  rcases hask : askIn s x with ⟨a, t⟩
  rw [hask] at hfirst
  rw [askIn_bind hask]
  exact IsTrans.trans _ _ _ hfirst (hf a t)

/-- A computation that has failed does not go on. -/
theorem tryBind {x : ExceptT Failure (StateM σ) α} {f : α → ExceptT Failure (StateM σ) β}
    (hx : Leads R x.run) (hf : ∀ a, Leads R (f a).run) : Leads R (x >>= f).run := by
  show Leads R (x.run >>= ExceptT.bindCont f)
  refine bind hx fun result => ?_
  cases result with
  | error failure => exact pure _
  | ok a => exact hf a

theorem fromFile {answer : StateM σ (Except FileFault α)} (h : Leads R answer) :
    Leads R (TraitDoc.fromFile answer).run := by
  refine bind h fun result => ?_
  cases result with
  | error fault => exact pure _
  | ok a => exact pure _

variable [Host (StateM σ)]

/-! ### Directories -/

section

variable (hkind : ∀ p, Leads R (Host.kind p))
include hkind

theorem isDirectory (p : FilePath) : Leads R (Host.isDirectory p) := by
  unfold Host.isDirectory
  refine bind ?_ fun _ => pure _
  unfold Host.entry?
  refine bind (hkind p) fun answer => ?_
  split
  · exact pure _
  · exact pure _
  · exact pure _

theorem ensureDirectory {p : FilePath} (hmake : Leads R (Host.makeDirectory p)) :
    Leads R (Host.ensureDirectory p) := by
  unfold Host.ensureDirectory
  refine bind hmake fun answer => ?_
  split
  · exact pure _
  · exact pure _
  · refine bind (isDirectory hkind p) fun there => ?_
    split
    · exact pure _
    · exact pure _
    · exact pure _
  · exact pure _

private theorem makeDirectoriesUp (anchor : Anchor) (above : List Text)
    (hmake : ∀ names, names <+: above.reverse → Leads R (Host.makeDirectory ⟨anchor, names⟩)) :
    Leads R (Host.makeDirectoriesUp anchor above) := by
  induction above with
  | nil => exact ensureDirectory hkind (hmake [] (List.prefix_refl _))
  | cons last above ih =>
    have hlast : Leads R (Host.ensureDirectory ⟨anchor, (last :: above).reverse⟩) :=
      ensureDirectory hkind (hmake _ (List.prefix_refl _))
    unfold Host.makeDirectoriesUp
    refine bind hlast fun first => ?_
    split
    · -- the directory above is missing, so it is made first, and then this one is tried again
      have habove : above.reverse <+: (last :: above).reverse := by simp
      refine bind (ih fun names hnames => hmake names (hnames.trans habove)) fun second => ?_
      split
      · exact hlast
      · exact pure _
    · exact pure _

/-- Making directories leads where making single ones leads, each at the path or on the way to it. -/
theorem makeDirectories {p : FilePath}
    (hmake : ∀ names, names <+: p.names → Leads R (Host.makeDirectory ⟨p.anchor, names⟩)) :
    Leads R (Host.makeDirectories p) := by
  apply makeDirectoriesUp hkind
  rwa [List.reverse_reverse]

end

/-! ### Messages and rendering -/

variable {j : Journal} (hj : j.WritesNoFile)
  (hprint : ∀ text, Leads R (Host.print .errors text))

include hprint

private theorem send (part : Text) (level : Level) (message : Text) {sink : Sink}
    (hsink : ∀ path, sink ≠ .file path) : Leads R (Journal.send part level message sink) := by
  cases sink with
  | console => exact bind (hprint _) fun _ => pure _
  | file path => exact absurd rfl (hsink path)
  | removedFile => exact pure _

private theorem forM_send (part : Text) (level : Level) (message : Text) (sinks : List Sink)
    (hsinks : ∀ path, Sink.file path ∉ sinks) :
    Leads R (sinks.forM (Journal.send part level message)) := by
  induction sinks with
  | nil => exact pure _
  | cons sink sinks ih =>
    refine bind (send hprint part level message fun path heq => ?_) fun _ => ih fun path hin => ?_
    · exact hsinks path (heq ▸ List.mem_cons_self)
    · exact hsinks path (List.mem_cons_of_mem _ hin)

include hj

/-- A journal that writes to no file prints messages and does nothing else. -/
theorem note (part : Text) (level : Level) (message : Text) :
    Leads R (j.note part level message) := by
  have hreached : (j.reachedBy part).WritesNoFile := by
    unfold Journal.reachedBy
    split
    · exact hj
    · intro path hin
      cases hin
  unfold Journal.note
  dsimp only
  split
  · split
    · exact bind (hprint _) fun _ => pure _
    · exact forM_send hprint part level message _ hreached
  · exact pure _

theorem tell (level : Level) (message : Text) : Leads R (Run.tell j level message).run :=
  bind (note hj hprint _ _ _) fun _ => pure _

variable (hread : ∀ p, Leads R (Host.read p))
include hread

theorem makeTrait (s : Settings) (filename : Text) :
    Leads R (Run.makeTrait s j filename).run := by
  unfold Run.makeTrait Run.readSource readText
  refine tryBind ?_ fun source => ?_
  · refine tryBind (tell hj hprint _ _) fun _ => tryBind ?_ fun text => pure _
    refine tryBind (fromFile (hread _)) fun bytes => ?_
    split
    · exact pure _
    · exact pure _
  · refine tryBind (pure _) fun file => ?_
    split
    · exact tryBind (tell hj hprint _ _) fun _ => pure _
    · exact pure _

/-- Rendering leads where reading and printing lead. -/
theorem makeTraits (s : Settings) (names : List Text) :
    Leads R (Run.makeTraits s j names).run := by
  induction names with
  | nil => exact pure _
  | cons filename names ih =>
    unfold Run.makeTraits
    exact tryBind (makeTrait hj hprint hread s filename) fun file => tryBind ih fun files => pure _

end Leads

end TraitDoc
