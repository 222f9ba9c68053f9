import Docking.Command
import Docking.Gesture
import Docking.Item
import Docking.Tree.Edit
import Docking.Tree.Snapshot

/-!
# Docks

A dock owns a layout, the items of all open tabs, the gesture that is going on, and the commands
that it has queued. An item and the layout say the same about where a docked tab is.

## Main definitions

* `Dock`, `Dock.new`: a dock, and the dock without a tab.
* `Dock.placeEntry`: puts a tab into the layout and has its surface shown.
* `Dock.detach`: takes a tab out of the layout and closes the gap.
-/

namespace Docking

/-- A docking area with everything in it. -/
structure Dock where
  tree : Tree
  /-- All open tabs, docked and floating. -/
  items : Table TabId Item
  /-- The panel that new tabs go to, if it is still there. -/
  activePanel : Option NodeId
  gesture : Option Gesture
  settings : DragSettings
  /-- The number that the next tab will get. -/
  nextTab : Nat
  /-- The commands that nobody has taken yet, oldest first. -/
  outbox : List Command

namespace Dock

/-- The dock without a tab: one empty panel, which is active. -/
def new (settings : DragSettings) : Dock :=
  ⟨.new, .empty, some Tree.new.root, none, settings, 1, []⟩

instance : Inhabited Dock := ⟨new .standard⟩

/-! ## Queries -/

/-- The item of a tab. -/
def item? (d : Dock) (tab : TabId) : Option Item := d.items.get? tab

/-- The panel in which a tab is docked. -/
def panelOf? (d : Dock) (tab : TabId) : Option NodeId := (d.item? tab).bind Item.panel?

/-- The tabs of a plugin, from the oldest to the newest. -/
def tabsOf (d : Dock) (plugin : String) : List TabId :=
  (d.items.values.filter fun i => i.plugin == plugin).map Item.id

/-- The oldest tab of a title. -/
def findTitle (d : Dock) (title : String) : Option TabId :=
  (d.items.values.find? fun i => i.title == title).map Item.id

/-- The floating tab that a window shows. A hash map of the items is searched in arbitrary order, so
where several tabs have the window any of them may be found. Here it is the oldest one. -/
def findWindow (d : Dock) (window : Window) : Option TabId :=
  (d.items.values.find? fun i => i.window? == some window).map Item.id

/-- The hint of the gesture that is going on. -/
def indicator? (d : Dock) : Option Indicator := d.gesture.bind Gesture.indicator

/-- Whether a detached window is being dragged over the dock. -/
def externalDrag (d : Dock) : Bool := d.gesture.any Gesture.isExternal

/-! ## Commands -/

/-- Queues a command. -/
def emit (d : Dock) (c : Command) : Dock := { d with outbox := d.outbox ++ [c] }

/-- Hands out the queued commands. -/
def takeCommands (d : Dock) : List Command × Dock := (d.outbox, { d with outbox := [] })

/-! ## Placing tabs -/

/-- The active panel if it is still there, or else the first one. A layout without a panel starts
over from a single empty panel. -/
def defaultPanel (d : Dock) : NodeId × Dock :=
  match d.activePanel.filter fun p => (d.tree.panel? p).isSome with
  | some panel => (panel, d)
  | none =>
    match d.tree.firstPanel? with
    | some panel => (panel, d)
    | none =>
      let tree := Tree.new.computeLayout d.tree.viewport
      (tree.root, { d with tree })

/-- Adds a tab to a panel. The panel becomes the active one if the tab is shown. A tab that the
panel holds already is not added, and its surface is given up. -/
def addToPanel (d : Dock) (panel : NodeId) (entry : TabEntry) (activate : Bool) : Dock :=
  match d.tree.panel? panel with
  | none => d
  | some p =>
    match p.addTab entry activate with
    | (.error rejected, p) =>
      { d with tree := d.tree.setPanel panel p }.emit (.destroy rejected.surface)
    | (.ok (), p) =>
      { d with
        tree := d.tree.setPanel panel p
        activePanel := if p.active = some entry.id then some panel else d.activePanel }

/-- Takes the tab out of a panel that has found no place in the layout and adds it to the default
panel. -/
def rehouse (d : Dock) (panel : NodeId) : NodeId × Dock :=
  match d.tree.takeDetached panel with
  | none => (panel, d)
  | some (node, tree) =>
    let d := { d with tree }
    match node.body with
    | .split _ => (panel, d)
    | .panel p =>
      match p.tabIds.head?.bind fun tab => (p.removeTab tab).1 with
      | none => d.defaultPanel
      | some entry =>
        let (fallback, d) := d.defaultPanel
        (fallback, d.addToPanel fallback entry true)

/-- Gives a tab a panel of its own beside `target`. Where the layout can not be split there, the tab
goes to the default panel. -/
def splitWith (d : Dock) (entry : TabEntry) (target : NodeId) (orientation : Orientation)
    (newFirst : Bool) : NodeId × Dock :=
  let (panel, tree) := d.tree.insertPanel (.single entry)
  match tree.splitPanel target panel orientation newFirst with
  | (.ok _, tree) => (panel, { d with tree, activePanel := some panel })
  | (.error _, tree) => { d with tree }.rehouse panel

/-- Puts a tab where a drop would put it, and returns its panel. A target whose panel is gone is no
target. -/
def putEntry (d : Dock) (entry : TabEntry) (target : Option DropTarget) (activate : Bool) :
    NodeId × Dock :=
  match target.filter fun t => (d.tree.panel? t.panel).isSome with
  | some ⟨panel, zone⟩ =>
    match zone.orientation? with
    | some orientation => d.splitWith entry panel orientation zone.newFirst
    | none => (panel, d.addToPanel panel entry true)
  | none =>
    let (panel, d) := d.defaultPanel
    (panel, d.addToPanel panel entry activate)

/-- Puts a tab into the layout, has its surface shown there, and returns its panel. Without a target
the tab goes to the default panel, where it is shown if `activate`. -/
def placeEntry (d : Dock) (entry : TabEntry) (target : Option DropTarget) (activate : Bool) :
    NodeId × Dock :=
  let (panel, d) := d.putEntry entry target activate
  (panel, d.emit (.mount entry.surface.id panel))

/-- Takes a tab out of a panel and stops showing its surface. A panel that is left empty is removed,
unless it is the root. -/
def detach (d : Dock) (tab : TabId) (panel : NodeId) : Option TabEntry × Dock :=
  match d.tree.panel? panel with
  | none => (none, d)
  | some p =>
    match p.removeTab tab with
    | (none, p) => (none, { d with tree := d.tree.setPanel panel p })
    | (some entry, p) =>
      let d := { d with tree := d.tree.setPanel panel p }.emit (.unmount entry.surface.id)
      let tree :=
        if p.isEmpty && decide (panel ≠ d.tree.root) then (d.tree.removePanel panel).2 else d.tree
      (some entry, { d with tree := tree.prune.2 })

/-- Ends a change of the layout: all areas are computed again, and a repaint is asked for. -/
def finish (d : Dock) : Dock := { d with tree := d.tree.relayout }.emit .redraw

end Dock

end Docking
