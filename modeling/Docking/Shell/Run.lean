import Docking.Shell.Basic

/-!
# Running a shell

A message is handled by the dock, the commands of the dock are carried out, and what the window host
reports meanwhile is handled in the same way, until nothing is left to be done.

## Main definitions

* `Shell.carryOut`: an agenda of commands, with all that they add.
* `Shell.settle`: the reports of the window host.
* `Shell.dispatch`: a message with all that follows from it.
* `Shell.openPlugin`, `Shell.closePlugin`, `Shell.togglePlugin`, `Shell.startup`.
-/

namespace Docking

namespace Shell

variable {η : Type} [WindowHost η]

/-- Carries out an agenda from its front. What a command adds comes before the rest. -/
def carryOut : List Command → Shell η → Shell η
  | [], s => s
  | c :: rest, s => carryOut ((s.perform c).1 ++ rest) (s.perform c).2
termination_by agenda s => potential agenda s
decreasing_by exact potential_perform s c rest

/-- Carrying out an agenda leaves no more to be done than there was with it. -/
theorem potential_carryOut_le (agenda : List Command) (s : Shell η) :
    potential [] (carryOut agenda s) ≤ potential agenda s := by
  fun_induction carryOut agenda s with
  | case1 => exact Nat.le_refl _
  | case2 c rest s ih => exact Nat.le_trans ih (Nat.le_of_lt (potential_perform s c rest))

/-- Carries out an optional command, which counts as one repaint at most. -/
def process (s : Shell η) (c : Option Command) : Shell η :=
  carryOut (Command.steps c) (s.countRedraw c)

/-- Has the dock handle a message and carries out what it asks for. The first result tells whether
that is a repaint. -/
def react (s : Shell η) (m : Message) : Bool × Shell η :=
  let (c, dock) := s.dock.handle m
  (c.any Command.needsRedraw, { s with dock }.process c)

/-- Handling the oldest report leaves less to be done. -/
theorem potential_react_lt (s : Shell η) (tab : TabId) (window : Window)
    (rest : List (TabId × Window)) (h : s.inbox = (tab, window) :: rest) :
    potential [] ({ s with inbox := rest }.react (.windowOpened tab window)).2 <
      potential [] s := by
  refine Nat.lt_of_le_of_lt (potential_carryOut_le ..) ?_
  have h1 := Dock.totalWeight_attachWindow s.dock tab window
  have h2 := Command.totalWeight_flattenAll_le (s.dock.attachWindow tab window).2.outbox
  simp only [potential, countRedraw, Dock.receive, Command.steps_batch?, Command.totalWeight, h,
    List.length_cons]
  omega

/-- Tells the dock of the windows that the host has opened, the oldest first. The first result tells
whether that leads to a repaint. -/
def settle (s : Shell η) : Bool × Shell η :=
  match h : s.inbox with
  | [] => (false, s)
  | (tab, window) :: rest =>
    let first : Bool × Shell η := { s with inbox := rest }.react (.windowOpened tab window)
    have : potential [] first.2 < potential [] s := potential_react_lt s tab window rest h
    let others := settle first.2
    (first.1 || others.1, others.2)
termination_by potential [] s

/-- Handles a message with all that follows from it. The first result tells whether the message or a
report of the window host leads to a repaint. -/
def dispatch (s : Shell η) (m : Message) : Bool × Shell η :=
  let (redraw, s) := s.react m
  let (more, s) := s.settle
  (redraw || more, s)

/-- Carries out what the dock has queued, with all that follows from it. -/
def flush (s : Shell η) : Shell η :=
  let (commands, dock) := s.dock.takeCommands
  ({ s with dock }.process (Command.batch? commands)).settle.2

/-- Opens a tab of a plugin in the default panel, if the plugin can be used. -/
def openPlugin (s : Shell η) (plugin : String) (activate : Bool) : Option TabId × Shell η :=
  match s.content.createSurface plugin with
  | (none, content) => (none, { s with content })
  | (some (title, surface), content) =>
    let (tab, dock) := s.dock.openTab title surface activate
    (some tab, { s with dock, content }.flush)

theorem openPlugin_eq (s : Shell η) (plugin : String) (activate : Bool) :
    s.openPlugin plugin activate =
      match s.content.create plugin with
      | none => (none, s)
      | some (title, surface, content) =>
        let (tab, dock) := s.dock.openTab title surface activate
        (some tab, { s with dock, content }.flush) := by
  unfold openPlugin
  rw [Registry.createSurface_eq]
  cases s.content.create plugin <;> rfl

/-- Closes all tabs of a plugin and tells how many there were. -/
def closePlugin (s : Shell η) (plugin : String) : Nat × Shell η :=
  let tabs := s.dock.tabsOf plugin
  (tabs.length, tabs.foldl (fun s tab => (s.dispatch (.close tab)).2) s)

/-- Disables an enabled plugin and closes its tabs, or enables a disabled one and opens a tab behind
the others. The first result is what the plugin is now. -/
def togglePlugin (s : Shell η) (plugin : String) : Bool × Shell η :=
  let (enabled, settings) := s.settings.toggle plugin
  let s := { s with settings, content := s.content.setEnabled plugin enabled }
  (enabled, if enabled then (s.openPlugin plugin false).2 else (s.closePlugin plugin).2)

/-- Gives the dock its area and opens the first tabs: the plugin manager, which is shown, and a tab
of each enabled plugin behind it. -/
def startup (s : Shell η) (area : Rect) : Shell η :=
  let s := (s.dispatch (.resize area)).2
  let s :=
    if s.settings.openPluginManager then (s.openPlugin Registry.managerName true).2 else s
  s.settings.enabledPlugins.foldl (fun s plugin => (s.openPlugin plugin false).2) s

end Shell

end Docking
