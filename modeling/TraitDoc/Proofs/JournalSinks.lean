import TraitDoc.Proofs.FilesAddedTo
/-!
# Where messages go

A journal is set up again and again, and between that it takes messages. Each
time it is set up it starts afresh, so it does not matter what it was before:
from then on its sinks are the console and, if it was opened, one file. Messages
leave the journal as it is, and the file where it is. So each of them finds the
same sinks, however many came before.

What a message does is then a matter of one message. Below the level it does
nothing. Otherwise one line is printed, and one is added to the file; no other
file is touched, in particular none to which the journal went before.

All this is about messages of parts whose names lead to the program, as every
name does that does not begin with a dot. A name that begins with one dot does
not. Its messages go astray: to no file, and to the console bare if they warn.

## Main definitions

* `Workspace.Opens` — setting a journal up opens a file.
* `Journal.Request`, `Journal.serveAll` — setting up and taking messages.
* `Journal.InForce` — the sinks of a journal since it was set up.
* `Journal.Delivered`, `Journal.Astray` — what a message does.

## Main statements

* `Journal.configure_cases`, `Journal.inForce_configure` — how setting up leaves a journal.
* `Journal.InForce.serveAll` — messages leave it so.
* `Journal.note_delivered` — where a message goes.
* `Journal.note_lost` — not every message goes there.
-/

namespace TraitDoc

namespace Workspace

/-- A journal that is set up with this file opens it at this path. -/
def Opens (w : Workspace) (file : Option FilePath) (path : FilePath) : Prop :=
  ∃ p, file = some p ∧ w.absolute p = .ok path ∧ (w.ask (Host.openFile path)).1 = .ok ()

end Workspace

/-! ## Requests -/

namespace Journal

open Workspace (ask_bind logsTo_of_openFile)

/-- A message from a part of the program. -/
structure Message where
  part : Text
  level : Level
  text : Text

/-- What is asked of a journal: to be set up, or to take a message. -/
inductive Request
  | configure (verbose : Bool) (file : Option FilePath)
  | note (message : Message)

/-- The level that `verbose` asks for. -/
def askedLevel (verbose : Bool) : Level := if verbose then .debug else .info

section

variable {m : Type → Type} [Monad m] [Host m]

/-- The journal after a request. -/
def serve (j : Journal) : Request → m Journal
  | .configure verbose file => do
    let (configured, _) ← configure verbose file
    return configured
  | .note message => do
    j.note message.part message.level message.text
    return j

/-- The journal after requests, one after the other. -/
def serveAll (j : Journal) (requests : List Request) : m Journal := requests.foldlM serve j

theorem serveAll_cons (j : Journal) (request : Request) (requests : List Request) :
    j.serveAll (m := m) (request :: requests) = (do (← j.serve request).serveAll requests) := rfl

theorem serveAll_append [LawfulMonad m] (j : Journal) (first last : List Request) :
    j.serveAll (m := m) (first ++ last) = (do (← j.serveAll first).serveAll last) :=
  List.foldlM_append

end

/--
Since it was set up, a journal has the console and, if it was opened, one file
for its sinks, and the file is there.
-/
structure InForce (verbose : Bool) (log : Option FilePath) (j : Journal) (w : Workspace) :
    Prop where
  journal_eq : j = withSinks verbose (.console :: (log.map Sink.file).toList)
  logsTo : ∀ path, log = some path → w.LogsTo path

/--
What a message has done that was due: the console shows it once, and the file
that was opened when the journal was set up in `u`, if one was, has got it once.
Nothing else has changed.
-/
def Delivered (u : Workspace) (file : Option FilePath) (message : Message)
    (before after : Workspace) : Prop :=
  ∃ tree, after = (before.withErrors
      (before.errors ++ consoleLine message.level message.text)).withTree tree ∧
    ((∀ path, ¬ u.Opens file path) → tree = before.tree) ∧
    ∀ path, u.Opens file path → FileTree.Appended path.names
      (Text.encode (fileLine before.now message.part message.level message.text)) before.tree tree

/--
What a message has done that has not reached the journal: the console shows it
if it warns, bare, and nothing else has changed.
-/
def Astray (message : Message) (before after : Workspace) : Prop :=
  after = if Level.warning ≤ message.level then
    before.withErrors (before.errors ++ (message.text ++ ['\n'])) else before

variable {verbose : Bool} {log file : Option FilePath} {path : FilePath} {i j k : Journal}
  {u v w : Workspace} {level : Level} {part : Text}

/-! ## Setting up -/

theorem eq_of_opens {p q : FilePath} (hp : w.Opens file p) (hq : w.Opens file q) : p = q := by
  obtain ⟨given, hgiven, hpath, -⟩ := hp
  obtain ⟨again, hagain, hother, -⟩ := hq
  rw [← Option.some.inj (hgiven.symm.trans hagain)] at hother
  exact Except.ok.inj (hpath.symm.trans hother)

/-- Setting up opens a file, or leaves all as it was, which is a failure if a file is named. -/
theorem configure_cases (w : Workspace) (verbose : Bool) (file : Option FilePath) :
    (∃ path v, w.Opens file path ∧ v.LogsTo path ∧
      w.ask (configure verbose file) = ((withSinks verbose [.console, .file path], .ok ()), v)) ∨
    (∀ path, ¬ w.Opens file path) ∧ ∃ outcome, (outcome = .ok () ↔ file = none) ∧
      w.ask (configure verbose file) = ((withSinks verbose [.console], outcome), w) := by
  unfold configure
  cases file with
  | none =>
    refine .inr ⟨fun path h => ?_, .ok (), by simp, rfl⟩
    obtain ⟨p, hp, -⟩ := h
    cases hp
  | some p =>
    dsimp only
    rw [ask_bind (w.ask_absolute p)]
    cases hpath : w.absolute p with
    | error fault =>
      refine .inr ⟨fun path h => ?_, .error fault, by simp, rfl⟩
      obtain ⟨q, hq, hopened, -⟩ := h
      rw [← Option.some.inj hq, hpath] at hopened
      cases hopened
    | ok path =>
      dsimp only
      rcases hopen : w.ask (Host.openFile path) with ⟨fault | ⟨⟩, v⟩
      · have hsame : v = w := by
          rcases w.change_cases path FileTree.openFile with ⟨tree, -, hchange⟩ | ⟨other, hchange⟩
          · cases (Prod.mk.inj (hopen.symm.trans hchange)).1
          · exact (Prod.mk.inj (hopen.symm.trans hchange)).2
        rw [ask_bind hopen, hsame]
        refine .inr ⟨fun other h => ?_, .error fault, by simp, rfl⟩
        obtain ⟨q, hq, hopened, hok⟩ := h
        rw [← Option.some.inj hq, hpath] at hopened
        rw [← Except.ok.inj hopened, hopen] at hok
        cases hok
      · rw [ask_bind hopen]
        exact .inl ⟨path, v, ⟨p, rfl, hpath, by rw [hopen]⟩, logsTo_of_openFile hpath hopen, rfl⟩

/-- Setting up starts afresh: with the console, and with the file if it is opened. -/
theorem inForce_configure (w : Workspace) (verbose : Bool) (file : Option FilePath) :
    ∃ log j v outcome, w.ask (configure verbose file) = ((j, outcome), v) ∧
      InForce verbose log j v ∧ ∀ path, log = some path ↔ w.Opens file path := by
  rcases configure_cases w verbose file with
    ⟨path, v, hopens, hlogs, hrun⟩ | ⟨hnone, outcome, -, hrun⟩
  · refine ⟨some path, _, v, _, hrun, ⟨rfl, fun other h => ?_⟩, fun other => ?_⟩
    · rw [← Option.some.inj h]
      exact hlogs
    · rw [Option.some.injEq]
      constructor
      · rintro rfl
        exact hopens
      · exact eq_of_opens hopens
  · refine ⟨none, _, w, outcome, hrun, ⟨rfl, fun other h => by cases h⟩, fun other => ?_⟩
    simp [hnone other]

/-! ## One message -/

theorem not_warning_le (h : ¬ askedLevel verbose ≤ level) : ¬ Level.warning ≤ level := by
  have hrank : ¬ (askedLevel verbose).rank ≤ level.rank := h
  intro hwarning
  have hlevel : 30 ≤ level.rank := hwarning
  cases verbose with
  | true => exact hrank (show 10 ≤ level.rank by omega)
  | false => exact hrank (show 20 ≤ level.rank by omega)

/-- A message of a part that does not lead to the program goes to the console, bare, if it warns. -/
theorem note_apart (hpart : leadsToProgram part = false) (j : Journal) (w : Workspace)
    (level : Level) (text : Text) : w.ask (j.note part level text) =
      ((), if Level.warning ≤ level then w.withErrors (w.errors ++ (text ++ ['\n'])) else w) := by
  unfold note reachedBy
  rw [hpart, if_neg Bool.false_ne_true]
  show w.ask (if Level.warning ≤ level then _ else _) = _
  split
  · rfl
  · rfl

theorem InForce.threshold_eq (h : InForce verbose log j w) : j.threshold = askedLevel verbose := by
  rw [h.journal_eq]
  rfl

/-- A message below the level does nothing. -/
theorem InForce.note_below (h : InForce verbose log j w) (hlevel : ¬ askedLevel verbose ≤ level)
    (part text : Text) : w.ask (j.note part level text) = ((), w) := by
  cases hpart : leadsToProgram part with
  | false => rw [note_apart hpart, if_neg (not_warning_le hlevel)]
  | true =>
    unfold note reachedBy
    rw [hpart, if_pos rfl]
    dsimp only
    rw [h.threshold_eq, if_neg hlevel]
    rfl

theorem ask_discard {α : Type} {x : StateM Workspace α} {a : α} (h : w.ask x = (a, v)) :
    w.ask (discard x) = ((), v) := by
  show (match w.ask x with | (_, v) => ((), v)) = _
  rw [h]

/-- The file takes a line. -/
theorem ask_send_file (h : w.LogsTo path) (part : Text) (level : Level) (text : Text) :
    ∃ tree, w.ask (send part level text (.file path)) = ((), w.withTree tree) ∧
      FileTree.Appended path.names (Text.encode (fileLine w.now part level text)) w.tree tree := by
  obtain ⟨tree, happend, hadded⟩ := h.append (Text.encode (fileLine w.now part level text))
  have hnow : w.ask Host.now = (w.now, w) := rfl
  refine ⟨tree, ?_, hadded⟩
  unfold send
  dsimp only
  rw [ask_bind hnow]
  exact ask_discard happend

/-- A message that is due goes to the console and to the file, once. -/
theorem InForce.note_due (h : InForce verbose log j w) (hpart : leadsToProgram part = true)
    (hlevel : askedLevel verbose ≤ level) (text : Text) :
    ∃ tree, w.ask (j.note part level text) =
        ((), (w.withErrors (w.errors ++ consoleLine level text)).withTree tree) ∧
      (log = none → tree = w.tree) ∧ ∀ path, log = some path →
        FileTree.Appended path.names (Text.encode (fileLine w.now part level text)) w.tree tree := by
  have hset : j.level.isNone = false := by
    rw [h.journal_eq]
    rfl
  have hconsole : w.ask (send part level text .console) =
      ((), w.withErrors (w.errors ++ consoleLine level text)) := rfl
  unfold note reachedBy
  rw [hpart, if_pos rfl]
  dsimp only
  rw [h.threshold_eq, if_pos hlevel, hset, if_neg Bool.false_ne_true, h.journal_eq]
  cases log with
  | none => exact ⟨w.tree, rfl, fun _ => rfl, fun path hpath => by cases hpath⟩
  | some path =>
    obtain ⟨tree, hsend, hadded⟩ :=
      ask_send_file ((h.logsTo path rfl).withErrors (w.errors ++ consoleLine level text))
        part level text
    refine ⟨tree, ?_, fun hnone => (by cases hnone), fun other hother => ?_⟩
    · show w.ask (send part level text .console >>= fun _ =>
        send part level text (.file path) >>= fun _ => pure ()) = _
      rw [ask_bind hconsole, ask_bind hsend]
      rfl
    · rw [← Option.some.inj hother]
      exact hadded

/-! ## Messages one after the other -/

theorem InForce.withErrors (h : InForce verbose log j w) (errors : Text) :
    InForce verbose log j (w.withErrors errors) :=
  ⟨h.journal_eq, fun path hpath => (h.logsTo path hpath).withErrors errors⟩

/-- A message leaves the sinks as they are. -/
theorem InForce.note (h : InForce verbose log j w) (part : Text) (level : Level) (text : Text) :
    ∃ v, w.ask (j.note part level text) = ((), v) ∧ InForce verbose log j v := by
  cases hpart : leadsToProgram part with
  | false =>
    refine ⟨_, note_apart hpart j w level text, ?_⟩
    split
    · exact h.withErrors _
    · exact h
  | true =>
    by_cases hlevel : askedLevel verbose ≤ level
    · obtain ⟨tree, hnote, hnone, hadded⟩ := h.note_due hpart hlevel text
      refine ⟨_, hnote, h.journal_eq, fun path hpath => ?_⟩
      exact ((h.logsTo path hpath).withErrors _).withTree (hadded path hpath)
    · exact ⟨w, h.note_below hlevel part text, h⟩

/-- So do messages, however many. -/
theorem InForce.serveAll (h : InForce verbose log j w) (since : List Message) :
    ∃ v, w.ask (j.serveAll (since.map .note)) = (j, v) ∧ InForce verbose log j v := by
  induction since generalizing w with
  | nil => exact ⟨w, rfl, h⟩
  | cons message since ih =>
    obtain ⟨between, hnote, hbetween⟩ := h.note message.part message.level message.text
    obtain ⟨v, hrest, hv⟩ := ih hbetween
    have hserve : w.ask (j.serve (.note message)) = (j, between) := by
      unfold serve
      rw [ask_bind hnote]
      rfl
    refine ⟨v, ?_, hv⟩
    rw [List.map_cons, serveAll_cons, ask_bind hserve, hrest]

/-- A message that is due is delivered, if its part leads to the program. -/
theorem InForce.delivered (h : InForce verbose log j w) {message : Message}
    (hlog : ∀ path, log = some path ↔ u.Opens file path)
    (hpart : leadsToProgram message.part = true) (hlevel : askedLevel verbose ≤ message.level) :
    ∃ after, w.ask (j.note message.part message.level message.text) = ((), after) ∧
      Delivered u file message w after := by
  obtain ⟨tree, hnote, hnone, hadded⟩ := h.note_due hpart hlevel message.text
  refine ⟨_, hnote, tree, rfl, fun hplain => hnone ?_, fun path hopens => ?_⟩
  · cases hfile : log with
    | none => rfl
    | some path => exact absurd ((hlog path).1 hfile) (hplain path)
  · exact hadded path ((hlog path).2 hopens)

/-- After any requests, then setting up, and then messages, the sinks are those set up. -/
theorem inForce_serveAll {before : List Request} {since : List Message}
    (hu : w.ask (j.serveAll before) = (i, u))
    (hv : w.ask (j.serveAll (before ++ .configure verbose file :: since.map .note)) = (k, v)) :
    ∃ log, InForce verbose log k v ∧ ∀ path, log = some path ↔ u.Opens file path := by
  obtain ⟨log, set, between, outcome, hconfigure, hset, hlog⟩ := inForce_configure u verbose file
  obtain ⟨after, hsince, hafter⟩ := hset.serveAll since
  have hserve : u.ask (i.serve (.configure verbose file)) = (set, between) := by
    unfold serve
    rw [ask_bind hconfigure]
    rfl
  have hall : w.ask (j.serveAll (before ++ .configure verbose file :: since.map .note)) =
      (set, after) := by
    rw [serveAll_append, ask_bind hu, serveAll_cons, ask_bind hserve, hsince]
  obtain ⟨rfl, rfl⟩ := Prod.mk.inj (hall.symm.trans hv)
  exact ⟨log, hafter, hlog⟩

theorem takeWhile_dot_eq_nil (h : part.head? ≠ some '.') : part.takeWhile (· == '.') = [] := by
  cases part with
  | nil => rfl
  | cons c part =>
    have hc : (c == '.') = false := by
      rw [List.head?_cons] at h
      simpa using h
    rw [List.takeWhile_cons, hc, if_neg Bool.false_ne_true]

theorem leadsToProgram_of_head? (h : part.head? ≠ some '.') : leadsToProgram part = true := by
  rw [leadsToProgram, takeWhile_dot_eq_nil h]
  rfl

theorem not_leadsToProgram_of_dot (h : part.head? ≠ some '.') :
    leadsToProgram ('.' :: part) = false := by
  have hdots : ('.' :: part).takeWhile (· == '.') = ['.'] := by
    rw [List.takeWhile_cons, takeWhile_dot_eq_nil h]
    rfl
  rw [leadsToProgram, hdots]
  rfl

/--
**After any requests a message goes where the journal was last set up to send it.**
Below the level it does nothing. Otherwise it is delivered, if the name of its
part does not begin with a dot. If that begins with one dot the message goes
astray, and in any case it does one or the other.
-/
theorem note_delivered {before : List Request} {since : List Message} (message : Message)
    (hu : w.ask (j.serveAll before) = (i, u))
    (hv : w.ask (j.serveAll (before ++ .configure verbose file :: since.map .note)) = (k, v)) :
    ∃ after, v.ask (k.note message.part message.level message.text) = ((), after) ∧
      (¬ askedLevel verbose ≤ message.level → after = v) ∧
      (askedLevel verbose ≤ message.level → message.part.head? ≠ some '.' →
        Delivered u file message v after) ∧
      (∀ rest, message.part = '.' :: rest → rest.head? ≠ some '.' → Astray message v after) ∧
      (askedLevel verbose ≤ message.level →
        Delivered u file message v after ∨ Astray message v after) := by
  obtain ⟨log, hinForce, hlog⟩ := inForce_serveAll hu hv
  cases hpart : leadsToProgram message.part with
  | false =>
    refine ⟨_, note_apart hpart k v _ _, fun hbelow => ?_, fun _ hhead => ?_,
      fun _ _ _ => rfl, fun _ => .inr rfl⟩
    · rw [if_neg (not_warning_le hbelow)]
    · rw [leadsToProgram_of_head? hhead] at hpart
      cases hpart
  | true =>
    have hnotAstray : ∀ rest, message.part = '.' :: rest → ¬ rest.head? ≠ some '.' := by
      intro rest heq hrest
      rw [heq, not_leadsToProgram_of_dot hrest] at hpart
      cases hpart
    by_cases hlevel : askedLevel verbose ≤ message.level
    · obtain ⟨after, hnote, hdelivered⟩ := hinForce.delivered hlog hpart hlevel
      exact ⟨after, hnote, fun hbelow => absurd hlevel hbelow, fun _ _ => hdelivered,
        fun rest heq hrest => absurd hrest (hnotAstray rest heq), fun _ => .inl hdelivered⟩
    · exact ⟨v, hinForce.note_below hlevel _ _, fun _ => rfl, fun hdue => absurd hdue hlevel,
        fun rest heq hrest => absurd hrest (hnotAstray rest heq), fun hdue => absurd hdue hlevel⟩

/-! ## A journal that is set up twice -/

/-- An empty project. -/
def quietWorkspace : Workspace where
  tree := .directory []
  standing := .at []
  homes := fun _ => none
  now := "<TIME>".toList

/-- The journal is set up with one file and takes a message. -/
def firstRequests : List Request :=
  [.configure true (some (.ofText "a.log".toList)), .note ⟨"run".toList, .debug, "A".toList⟩]

/-- It is set up with another file and takes one more message. -/
def secondRequests : List Request :=
  [.configure false (some (.ofText "b.log".toList)), .note ⟨"run".toList, .info, "B".toList⟩]

/-- A message of the part that runs. -/
def runMessage : Message := ⟨"run".toList, .info, "C".toList⟩

/-- A message goes to the file that was opened last. -/
theorem note_delivered_twice : ∃ i u k v after,
    quietWorkspace.ask (fresh.serveAll firstRequests) = (i, u) ∧
    quietWorkspace.ask (fresh.serveAll (firstRequests ++ secondRequests)) = (k, v) ∧
    askedLevel false ≤ runMessage.level ∧ runMessage.part.head? ≠ some '.' ∧
    u.Opens (some (.ofText "b.log".toList)) (.ofText "/b.log".toList) ∧
    v.ask (k.note runMessage.part runMessage.level runMessage.text) = ((), after) ∧
    Delivered u (some (.ofText "b.log".toList)) runMessage v after := by
  have hlevel : askedLevel false ≤ runMessage.level := by decide
  have hpart : runMessage.part.head? ≠ some '.' := by decide
  have habsolute : ((quietWorkspace.ask (fresh.serveAll firstRequests)).2.absolute
      (.ofText "b.log".toList)).toOption = some (.ofText "/b.log".toList) := by
    decide +kernel
  have hopened : ((quietWorkspace.ask (fresh.serveAll firstRequests)).2.ask
      (Host.openFile (.ofText "/b.log".toList))).1.toOption = some () := by
    decide +kernel
  rcases hu : quietWorkspace.ask (fresh.serveAll firstRequests) with ⟨i, u⟩
  rcases hv : quietWorkspace.ask (fresh.serveAll (firstRequests ++ secondRequests)) with ⟨k, v⟩
  rw [hu] at habsolute hopened
  have hopens : u.Opens (some (.ofText "b.log".toList)) (.ofText "/b.log".toList) :=
    ⟨_, rfl, eq_ok_of_toOption habsolute, eq_ok_of_toOption hopened⟩
  have hsince : secondRequests = .configure false (some (.ofText "b.log".toList)) ::
      [⟨"run".toList, .info, "B".toList⟩].map .note := rfl
  rw [hsince] at hv
  obtain ⟨after, hnote, -, hdelivered, -⟩ := note_delivered runMessage hu hv
  exact ⟨i, u, k, v, after, rfl, rfl, hlevel, hpart, hopens, hnote, hdelivered hlevel hpart⟩

/-- Not every message that is due is delivered. -/
theorem note_lost :
    ¬ ∀ (i j k : Journal) (u v w : Workspace) (verbose : Bool) (file : Option FilePath)
      (before : List Request) (since : List Message) (message : Message),
      w.ask (j.serveAll before) = (i, u) →
      w.ask (j.serveAll (before ++ .configure verbose file :: since.map .note)) = (k, v) →
      askedLevel verbose ≤ message.level →
      ∃ after, v.ask (k.note message.part message.level message.text) = ((), after) ∧
        Delivered u file message v after := by
  intro hdelivers
  have hset : quietWorkspace.ask (fresh.serveAll ([] ++ .configure false none :: [].map .note)) =
      (withSinks false [.console], quietWorkspace) := rfl
  obtain ⟨after, hnote, tree, hafter, -⟩ :=
    hdelivers _ _ _ _ _ _ _ _ _ _ ⟨".x".toList, .info, "m".toList⟩ rfl hset (by decide)
  have hpart : leadsToProgram ".x".toList = false := by decide
  have hastray := note_apart hpart (withSinks false [.console]) quietWorkspace .info "m".toList
  rw [if_neg (by decide)] at hastray
  have hsame : quietWorkspace = after := (Prod.mk.inj (hastray.symm.trans hnote)).2
  have herrors : quietWorkspace.errors = quietWorkspace.errors ++ consoleLine .info "m".toList :=
    congrArg Workspace.errors (hsame.trans hafter)
  exact absurd herrors (by decide)

end Journal

end TraitDoc
