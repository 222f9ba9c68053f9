import Docking.Command.Weight
import Docking.Dock.Queue
import Docking.Host
import Docking.Plugin.Registry
import Docking.Settings.Basic

/-!
# Shells

A shell is a dock with everything around it: the window host, the plugin registry and the settings.
It carries out the commands of the dock, one at a time. A command can add to what is still to be
done: a new tab brings the commands that show it, and an opened window is reported back to the dock.

Carrying out commands comes to an end, because every command has a weight that is larger than the
weight of all that it adds.

## Main definitions

* `Shell`, `Shell.new`: a shell, and the shell before anything has happened.
* `Shell.perform`: one command.
* `Shell.potential`: the weight of all that is still to be done; `potential_perform` says that it
  decreases.
-/

namespace Docking

/-- A dock with everything around it, over a type of window hosts. -/
structure Shell (η : Type) where
  dock : Dock
  host : η
  content : Registry
  settings : Settings
  /-- Windows that the host has opened and that the dock does not know yet, with their tabs. -/
  inbox : List (TabId × Window)
  /-- What the host refused, oldest first. -/
  hostErrors : List HostError
  /-- How often a repaint was asked for. -/
  redraws : Nat

namespace Shell

variable {η : Type}

/-- The shell before anything has happened. -/
def new (settings : Settings) (host : η) (content : Registry) : Shell η :=
  ⟨.new settings.dragSettings, host, content, settings, [], [], 0⟩

/-- Counts the repaint that a command asks for. -/
def countRedraw (s : Shell η) (c : Option Command) : Shell η :=
  { s with redraws := s.redraws + if c.any Command.needsRedraw then 1 else 0 }

/-- Records what the host answered to a request that has no result. -/
def recordAnswer (s : Shell η) (answer : Except HostError Unit × η) : Shell η :=
  match answer with
  | (.ok (), host) => { s with host }
  | (.error e, host) => { s with host, hostErrors := s.hostErrors ++ [e] }

/-- Has the host open a window for a tab. The dock will be told of the window later. -/
def openWindow [WindowHost η] (s : Shell η) (tab : TabId) (plugin : String) : Shell η :=
  match WindowHost.create s.host plugin with
  | (.ok window, host) => { s with host, inbox := s.inbox ++ [(tab, window)] }
  | (.error e, host) => { s with host, hostErrors := s.hostErrors ++ [e] }

/-- Docks a new tab of a plugin, if the plugin can be used, and returns what has to be done then. -/
def instantiate (s : Shell η) (plugin : String) (target : Option DropTarget) :
    List Command × Shell η :=
  match s.content.createSurface plugin with
  | (none, content) => ([], { s with content })
  | (some (title, surface), content) =>
    let (commands, dock) := (s.dock.dockNew title surface target).2.takeCommands
    let c := Command.batch? commands
    (Command.steps c, { s with dock, content }.countRedraw c)

theorem instantiate_eq (s : Shell η) (plugin : String) (target : Option DropTarget) :
    s.instantiate plugin target =
      match s.content.create plugin with
      | none => ([], s)
      | some (title, surface, content) =>
        let (commands, dock) := (s.dock.dockNew title surface target).2.takeCommands
        let c := Command.batch? commands
        (Command.steps c, { s with dock, content }.countRedraw c) := by
  unfold instantiate
  rw [Registry.createSurface_eq]
  cases s.content.create plugin <;> rfl

/-- Carries out one command. The first result is what has to be done next because of it. -/
def perform [WindowHost η] (s : Shell η) : Command → List Command × Shell η
  | .nothing | .redraw => ([], s)
  | .mount surface panel => ([], { s with content := s.content.mount surface panel })
  | .unmount surface => ([], { s with content := s.content.unmount surface })
  | .destroy surface => ([], { s with content := s.content.destroy surface })
  | .detachWindow tab plugin => ([], s.openWindow tab plugin)
  | .closeWindow window => ([], s.recordAnswer (WindowHost.close s.host window))
  | .raiseWindow window => ([], s.recordAnswer (WindowHost.raise s.host window))
  | .instantiate plugin target => s.instantiate plugin target
  | .batch cs => (cs, s)

/-- The weight of all that is still to be done. -/
def potential (agenda : List Command) (s : Shell η) : Nat :=
  Command.totalWeight agenda + Command.totalWeight s.dock.outbox + 2 * s.inbox.length

@[simp]
theorem potential_recordAnswer (agenda : List Command) (s : Shell η)
    (answer : Except HostError Unit × η) :
    potential agenda (s.recordAnswer answer) = potential agenda s := by
  unfold recordAnswer
  split <;> rfl

theorem potential_openWindow_le [WindowHost η] (agenda : List Command) (s : Shell η) (tab : TabId)
    (plugin : String) : potential agenda (s.openWindow tab plugin) ≤ potential agenda s + 2 := by
  unfold openWindow
  split
  · simp only [potential, List.length_append, List.length_singleton]
    omega
  · exact Nat.le_add_right _ 2

theorem potential_instantiate_le (rest : List Command) (s : Shell η) (plugin : String)
    (target : Option DropTarget) :
    potential ((s.instantiate plugin target).1 ++ rest) (s.instantiate plugin target).2 ≤
      potential rest s + 3 := by
  rw [instantiate_eq]
  split
  · simp
  · next title surface content _ =>
    have h := Dock.totalWeight_register s.dock title surface target true
    have h' :=
      Command.totalWeight_flattenAll_le (s.dock.register title surface target true).2.outbox
    simp only [potential, Dock.takeCommands, Dock.dockNew, countRedraw, Command.steps_batch?,
      Command.totalWeight_append, Command.totalWeight]
    omega

/-- Every command leaves less to be done than there was with it. -/
theorem potential_perform [WindowHost η] (s : Shell η) (c : Command) (rest : List Command) :
    potential ((s.perform c).1 ++ rest) (s.perform c).2 < potential (c :: rest) s := by
  have key (agenda : List Command) :
      potential (c :: agenda) s = c.weight + potential agenda s := by
    simp only [potential, Command.totalWeight]
    omega
  cases c with
  | detachWindow tab plugin =>
    have := potential_openWindow_le rest s tab plugin
    simp only [perform, List.nil_append, key, Command.weight]
    omega
  | instantiate plugin target =>
    have := potential_instantiate_le rest s plugin target
    simp only [perform, key, Command.weight]
    omega
  | batch cs =>
    simp only [perform, potential, Command.totalWeight, Command.totalWeight_append, Command.weight]
    omega
  | closeWindow w => simp [perform, key, Command.weight]
  | raiseWindow w => simp [perform, key, Command.weight]
  | nothing => simp [perform, key, Command.weight]
  | redraw => simp [perform, key, Command.weight]
  | mount => simp [perform, potential, Command.totalWeight, Command.weight]
  | unmount => simp [perform, potential, Command.totalWeight, Command.weight]
  | destroy => simp [perform, potential, Command.totalWeight, Command.weight]

end Shell

end Docking
