import Docking.Proofs.Shell.Lasting

/-!
# A shell comes to rest

A command that is carried out can add commands, and windows that the host opens meanwhile are
reported to the dock, which may ask for more. Here the course of all this is written down by rules,
step for step: what a command adds is carried out by the same rules before the next command, and
reports are handled until there are none. A course that does not end is no course by these rules.
Whatever the host answers, every call has a course, which leads to nothing else than the function
says; and afterwards neither a command nor a report is left.

## Main definitions

* `Shell.Idle`: nothing is left to be done.
* `Shell.Carries`, `Shell.Drains`: the courses of commands and of reports.
* `Shell.Dispatches`, `Shell.Opens`, `Shell.Closes`, `Shell.Toggles`, `Shell.Starts`: the courses of
  calls.

## Main results

* `carries_iff`, `drains_iff`: commands and reports come to an end.
* `lasting_idle`: every call leaves the shell idle.
* `calls_quiesce`: both for a shell after any calls.
-/

namespace Docking

namespace Shell

/-- To do something for each member of a list, one after another, has an end. -/
inductive InTurn {α σ : Type} (ends : α → σ → σ → Prop) : List α → σ → σ → Prop where
  | nil (s : σ) : InTurn ends [] s s
  | cons {a : α} {as : List α} {s t u : σ} (hfirst : ends a s t)
      (hothers : InTurn ends as t u) : InTurn ends (a :: as) s u

theorem inTurn_iff {α σ : Type} {ends : α → σ → σ → Prop} {f : σ → α → σ}
    (hf : ∀ {a s t}, ends a s t ↔ t = f s a) {as : List α} {s t : σ} :
    InTurn ends as s t ↔ t = as.foldl f s := by
  induction as generalizing s with
  | nil =>
      constructor
      · rintro ⟨⟩
        rfl
      · rintro rfl
        exact .nil _
  | cons a as ih =>
      constructor
      · rintro ⟨⟩
        next u hfirst hothers =>
        rw [List.foldl_cons, ← hf.1 hfirst]
        exact ih.1 hothers
      · intro h
        exact .cons (hf.2 rfl) (ih.2 h)

section Quiescence

variable {η : Type} [WindowHost η] {s t u : Shell η}

/-- Nothing is left to be done: the dock has queued no command, and no window is to be reported. -/
def Idle (s : Shell η) : Prop := s.dock.outbox = [] ∧ s.inbox = []

/-! ## Commands -/

/-- To carry out an agenda has an end, which is the last shell. What a command adds is carried out
before the rest. -/
inductive Carries : List Command → Shell η → Shell η → Prop where
  | nil (s : Shell η) : Carries [] s s
  | cons {c : Command} {rest : List Command} {s t u : Shell η}
      (hadded : Carries (s.perform c).1 (s.perform c).2 t) (hrest : Carries rest t u) :
      Carries (c :: rest) s u

theorem carryOut_nil (s : Shell η) : carryOut [] s = s := by rw [carryOut]

theorem carryOut_cons (c : Command) (rest : List Command) (s : Shell η) :
    carryOut (c :: rest) s = carryOut ((s.perform c).1 ++ rest) (s.perform c).2 := by rw [carryOut]

theorem carryOut_append (as bs : List Command) (s : Shell η) :
    carryOut (as ++ bs) s = carryOut bs (carryOut as s) := by
  fun_induction carryOut as s with
  | case1 => rfl
  | case2 c rest s ih => rw [List.cons_append, carryOut_cons, ← List.append_assoc, ih]

/-- The course of an agenda passes the end of each of its parts. -/
theorem Carries.split {as bs : List Command} (h : Carries (as ++ bs) s u) :
    ∃ t, Carries as s t ∧ Carries bs t u := by
  induction as generalizing s with
  | nil => exact ⟨s, .nil s, h⟩
  | cons c as ih =>
      cases h with
      | cons hadded hrest =>
          obtain ⟨t, hfirst, hsecond⟩ := ih hrest
          exact ⟨t, .cons hadded hfirst, hsecond⟩

/-- The potential decreases with every command, so that there is an end. -/
theorem carries_carryOut (agenda : List Command) (s : Shell η) :
    Carries agenda s (carryOut agenda s) := by
  fun_induction carryOut agenda s with
  | case1 s => exact .nil s
  | case2 c rest s ih =>
      obtain ⟨t, hadded, hrest⟩ := ih.split
      exact .cons hadded hrest

theorem Carries.eq {agenda : List Command} (h : Carries agenda s t) : t = carryOut agenda s := by
  induction h with
  | nil s => rw [carryOut_nil]
  | cons _ _ hadded hrest => rw [carryOut_cons, carryOut_append, ← hadded, ← hrest]

theorem carries_iff {agenda : List Command} : Carries agenda s t ↔ t = carryOut agenda s := by
  refine ⟨Carries.eq, ?_⟩
  rintro rfl
  exact carries_carryOut agenda s

/-- To carry out an optional command has an end. -/
def Processes (c : Option Command) (s t : Shell η) : Prop :=
  Carries (Command.steps c) (s.countRedraw c) t

theorem processes_iff {c : Option Command} : Processes c s t ↔ t = s.process c := carries_iff

/-- To handle a message, and to carry out what the dock asks for then, has an end. -/
def Reacts (m : Message) (s t : Shell η) : Prop :=
  Processes (s.dock.handle m).1 { s with dock := (s.dock.handle m).2 } t

theorem reacts_iff {m : Message} : Reacts m s t ↔ t = (s.react m).2 := processes_iff

/-! ## Reports -/

/-- To handle the reports of the host, the oldest first, has an end. While one is handled, others
may come in. -/
inductive Drains : Shell η → Shell η → Prop where
  | rest {s : Shell η} (h : s.inbox = []) : Drains s s
  | report {s t u : Shell η} {tab : TabId} {window : Window} {rest : List (TabId × Window)}
      (h : s.inbox = (tab, window) :: rest)
      (hreact : Reacts (.windowOpened tab window) { s with inbox := rest } t)
      (hothers : Drains t u) : Drains s u

theorem settle_of_read (hread : s.inbox = []) : s.settle.2 = s := by
  fun_induction settle s with
  | case1 => rfl
  | case2 s tab window rest hinbox =>
      rw [hread] at hinbox
      cases hinbox

theorem settle_of_cons {tab : TabId} {window : Window} {rest : List (TabId × Window)}
    (h : s.inbox = (tab, window) :: rest) :
    s.settle.2 = ({ s with inbox := rest }.react (.windowOpened tab window)).2.settle.2 := by
  rw [settle]
  split
  · next hinbox =>
    rw [h] at hinbox
    cases hinbox
  · next hinbox =>
    rw [h] at hinbox
    cases hinbox
    rfl

/-- The potential decreases with every report, so that there is an end. -/
theorem drains_settle (s : Shell η) : Drains s s.settle.2 := by
  fun_induction settle s with
  | case1 s h => exact .rest h
  | case2 s tab window rest h first hlt others ih => exact .report h (reacts_iff.2 rfl) ih

theorem Drains.eq (h : Drains s t) : t = s.settle.2 := by
  induction h with
  | rest h => rw [settle_of_read h]
  | report h hreact _ hothers =>
      rw [settle_of_cons h, ← reacts_iff.1 hreact]
      exact hothers

theorem drains_iff : Drains s t ↔ t = s.settle.2 := by
  refine ⟨Drains.eq, ?_⟩
  rintro rfl
  exact drains_settle s

/-! ## Calls -/

/-- To dispatch a message has an end. -/
def Dispatches (m : Message) (s u : Shell η) : Prop := ∃ t, Reacts m s t ∧ Drains t u

theorem dispatches_iff {m : Message} : Dispatches m s u ↔ u = (s.dispatch m).2 := by
  simp only [Dispatches, reacts_iff, drains_iff, exists_eq_left]
  rfl

/-- To carry out what the dock has queued, and what follows, has an end. -/
def Flushes (s u : Shell η) : Prop :=
  ∃ t, Processes (Command.batch? s.dock.outbox) { s with dock := s.dock.takeCommands.2 } t ∧
    Drains t u

theorem flushes_iff : Flushes s u ↔ u = s.flush := by
  simp only [Flushes, processes_iff, drains_iff, exists_eq_left]
  rfl

/-- To open a tab of a plugin has an end. A plugin that can not be used changes nothing. -/
def Opens (plugin : String) (activate : Bool) (s t : Shell η) : Prop :=
  match s.content.create plugin with
  | none => t = s
  | some (title, surface, content) =>
    Flushes { s with dock := (s.dock.openTab title surface activate).2, content } t

theorem opens_iff {plugin : String} {activate : Bool} :
    Opens plugin activate s t ↔ t = (s.openPlugin plugin activate).2 := by
  rw [Opens, openPlugin_eq]
  cases s.content.create plugin with
  | none => rfl
  | some x => exact flushes_iff

/-- To close all tabs of a plugin has an end. -/
def Closes (plugin : String) (s t : Shell η) : Prop :=
  InTurn (fun tab => Dispatches (.close tab)) (s.dock.tabsOf plugin) s t

theorem closes_iff {plugin : String} : Closes plugin s t ↔ t = (s.closePlugin plugin).2 :=
  inTurn_iff dispatches_iff

/-- To enable a plugin, which opens a tab, or to disable it, which closes its tabs, has an end. -/
def Toggles (plugin : String) (s t : Shell η) : Prop :=
  if (s.settings.toggle plugin).1 then Opens plugin false (s.decided plugin true) t
  else Closes plugin (s.decided plugin false) t

theorem toggles_iff {plugin : String} : Toggles plugin s t ↔ t = (s.togglePlugin plugin).2 := by
  unfold Toggles togglePlugin
  dsimp only
  cases (s.settings.toggle plugin).1 with
  | true => exact opens_iff
  | false => exact closes_iff

/-- To start a shell has an end: the dock is given its area, and the first tabs are opened. -/
def Starts (area : Rect) (s u : Shell η) : Prop :=
  ∃ r t, Dispatches (.resize area) s r ∧
    (if r.settings.openPluginManager then Opens Registry.managerName true r t else t = r) ∧
    InTurn (fun plugin => Opens plugin false) t.settings.enabledPlugins t u

theorem starts_iff {area : Rect} : Starts area s u ↔ u = s.startup area := by
  unfold Starts startup
  have hopened : ∀ {t u : Shell η} {plugins : List String},
      InTurn (fun plugin => Opens plugin false) plugins t u ↔
        u = plugins.foldl (fun s plugin => (s.openPlugin plugin false).2) t :=
    inTurn_iff fun {_ _ _} => opens_iff
  simp only [dispatches_iff, opens_iff, hopened, exists_and_left, exists_eq_left]
  split
  · simp only [exists_eq_left]
  · simp only [exists_eq_left]

/-! ## Rest -/

/-- Carrying out commands leaves nothing in the queue of the dock: a new tab's commands are taken
away at once. -/
theorem upheld_outbox : Upheld fun s : Shell η => s.dock.outbox = [] where
  aside _ _ hs := hs
  handle _ _ := rfl
  openTab _ _ _ := rfl
  perform := by
    intro s c hs
    cases c with
    | detachWindow tab plugin =>
        show (s.openWindow tab plugin).dock.outbox = []
        unfold openWindow
        split
        · exact hs
        · exact hs
    | instantiate plugin target =>
        show (s.instantiate plugin target).2.dock.outbox = []
        rw [instantiate_eq]
        split
        · exact hs
        · rfl
    | closeWindow window | raiseWindow window =>
        show (s.recordAnswer _).dock.outbox = []
        unfold recordAnswer
        split
        · exact hs
        · exact hs
    | nothing | redraw | mount | unmount | destroy | batch => exact hs

/-- In the end all reports are read. -/
theorem inbox_settle (s : Shell η) : s.settle.2.inbox = [] := by
  fun_induction settle s with
  | case1 s hinbox => exact hinbox
  | case2 s tab window rest hinbox =>
      rename_i ih
      exact ih

/-- A shell comes to rest with the reports that it handles last. -/
theorem idle_settle (h : s.dock.outbox = []) : s.settle.2.Idle :=
  ⟨upheld_outbox.settle h, inbox_settle s⟩

/-- A message leaves nothing to be done, whatever was left before it. -/
theorem idle_dispatch (s : Shell η) (m : Message) : (s.dispatch m).2.Idle :=
  idle_settle (upheld_outbox.process (s := { s with dock := (s.dock.handle m).2 }) _ rfl)

theorem idle_flush (s : Shell η) : s.flush.Idle :=
  idle_settle (upheld_outbox.process (s := { s with dock := s.dock.takeCommands.2 }) _ rfl)

/-- Every call leaves an idle shell idle. -/
theorem lasting_idle : Lasting (fun _ _ => True) (Idle (η := η)) := by
  refine Steady.lasting ?_ fun _ _ _ hs => hs
  exact
    { close := fun _ => trivial
      resize := fun _ => trivial
      dispatch := fun _ _ => idle_dispatch _ _
      openPlugin := by
        intro s plugin activate hs
        rw [openPlugin_eq]
        split
        · exact hs
        · exact idle_flush _ }

/-- Over every host, a shell is idle after any calls. Each further call has an end, which is what
the function of that call says, and leaves the shell idle again. -/
theorem calls_quiesce (settings : Settings) (host : η) (content : Registry) (cs : List Call) :
    let s := (new settings host content).calls cs
    s.Idle ∧ (∀ c, (s.call c).Idle) ∧
      (∀ m t, Dispatches m s t ↔ t = (s.dispatch m).2) ∧
      (∀ plugin activate t, Opens plugin activate s t ↔ t = (s.openPlugin plugin activate).2) ∧
      (∀ plugin t, Closes plugin s t ↔ t = (s.closePlugin plugin).2) ∧
      (∀ plugin t, Toggles plugin s t ↔ t = (s.togglePlugin plugin).2) ∧
      ∀ area t, Starts area s t ↔ t = s.startup area := by
  intro s
  have hs : s.Idle := lasting_idle.calls (s := new settings host content) ⟨rfl, rfl⟩ cs
  exact ⟨hs, fun c => lasting_idle.calls hs [c], fun _ _ => dispatches_iff, fun _ _ _ => opens_iff,
    fun _ _ => closes_iff, fun _ _ => toggles_iff, fun _ _ => starts_iff⟩

end Quiescence

end Shell

end Docking
