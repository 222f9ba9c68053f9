import Docking.Dock.Basic

/-!
# Operations on tabs

Opening, closing, showing, floating, moving and docking tabs. An operation on a tab that is not
where the operation needs it changes nothing.
-/

namespace Docking

namespace Dock

/-- Gives the dock a new area. -/
def setViewport (d : Dock) (area : Rect) : Dock :=
  { d with tree := d.tree.computeLayout area }.emit .redraw

/-- Puts the content of a new tab into the layout and records it. -/
def register (d : Dock) (title : String) (surface : Surface) (target : Option DropTarget)
    (activate : Bool) : TabId × Dock :=
  let id : TabId := ⟨d.nextTab⟩
  let (panel, d) :=
    { d with nextTab := d.nextTab + 1 }.placeEntry ⟨id, title, surface⟩ target activate
  (id, { d with items := d.items.insert id ⟨id, title, surface.plugin, .docked panel⟩ }.finish)

/-- Opens a tab in the default panel. -/
def openTab (d : Dock) (title : String) (surface : Surface) (activate : Bool) : TabId × Dock :=
  d.register title surface none activate

/-- Opens a tab at a target, and shows it. -/
def dockNew (d : Dock) (title : String) (surface : Surface) (target : Option DropTarget) :
    TabId × Dock :=
  d.register title surface target true

/-- Closes a tab wherever it is, with its window, and ends its surface. -/
def closeTab (d : Dock) (tab : TabId) : Dock :=
  match d.item? tab with
  | none => d
  | some item =>
    let d := { d with items := d.items.erase tab }
    match item.placement with
    | .docked panel =>
      match d.detach tab panel with
      | (none, d) => d.finish
      | (some entry, d) => (d.emit (.destroy entry.surface)).finish
    | .floating window surface =>
      let d := window.elim d fun w => d.emit (.closeWindow w)
      (d.emit (.destroy surface)).finish

/-- Shows a tab: in its panel if it is docked, or else by raising its window. -/
def activateTab (d : Dock) (tab : TabId) : Dock :=
  match d.item? tab with
  | none => d
  | some item =>
    match item.placement with
    | .docked panel =>
      match d.tree.panel? panel with
      | none => d
      | some p =>
        match p.activate tab with
        | (false, p) => { d with tree := d.tree.setPanel panel p }
        | (true, p) =>
          { d with tree := d.tree.setPanel panel p, activePanel := some panel }.emit .redraw
    | .floating (some window) _ => d.emit (.raiseWindow window)
    | .floating none _ => d

/-- Shows the next tab of the default panel, or the previous one. -/
def cycleTab (d : Dock) (forward : Bool) : Dock :=
  let (panel, d) := d.defaultPanel
  match d.tree.panel? panel with
  | none => d
  | some p =>
    match p.cycle forward with
    | (none, p) => { d with tree := d.tree.setPanel panel p }
    | (some _, p) =>
      { d with tree := d.tree.setPanel panel p, activePanel := some panel }.emit .redraw

/-- Records another placement of an item. -/
def setPlacement (d : Dock) (tab : TabId) (placement : Placement) : Dock :=
  { d with items := d.items.modify tab fun i => { i with placement } }

/-- Takes a docked tab out of the layout and asks for a window for it. -/
def floatTab (d : Dock) (tab : TabId) : Dock :=
  match d.item? tab with
  | none => d
  | some item =>
    match item.panel? with
    | none => d
    | some panel =>
      match d.detach tab panel with
      | (none, d) => d
      | (some entry, d) =>
        ((d.setPlacement tab (.floating none entry.surface)).emit
          (.detachWindow tab item.plugin)).finish

/-- Records the window of a floating tab, which the first result tells. A window whose tab does not
float any more is closed. -/
def attachWindow (d : Dock) (tab : TabId) (window : Window) : Bool × Dock :=
  match (d.item? tab).map Item.placement with
  | some (.floating _ surface) => (true, d.setPlacement tab (.floating (some window) surface))
  | _ => (false, d.emit (.closeWindow window))

/-- Whether a drop on `target` would leave a tab where it is: at the centre of its own panel, or at
an edge of a panel that holds nothing else. -/
def dropsOnItself (source : NodeId) (target : DropTarget) (panel : Panel) : Bool :=
  decide (target.panel = source) &&
    (decide (target.zone = .center) || decide (panel.tabs.length ≤ 1))

/-- Moves a docked tab to a target, and tells whether anything changed. -/
def moveTab (d : Dock) (tab : TabId) (target : DropTarget) : Bool × Dock :=
  match d.panelOf? tab, d.tree.panel? target.panel with
  | some source, some panel =>
    if dropsOnItself source target panel then (false, d)
    else
      match d.detach tab source with
      | (none, d) => (false, d)
      | (some entry, d) =>
        let (panel, d) := d.placeEntry entry (some target) true
        (true, (d.setPlacement tab (.docked panel)).finish)
  | _, _ => (false, d)

/-- Docks a floating tab, and returns the window that it had. A docked tab stays where it is. -/
def dockFloating (d : Dock) (tab : TabId) (target : Option DropTarget) : Option Window × Dock :=
  match d.item? tab with
  | none => (none, d)
  | some item =>
    let d := { d with items := d.items.erase tab }
    match item.placement with
    | .docked _ => (none, { d with items := d.items.insert tab item })
    | .floating window surface =>
      let (panel, d) := d.placeEntry ⟨tab, item.title, surface⟩ target true
      let items := d.items.insert tab { item with placement := .docked panel }
      (window, { d with items }.finish)

end Dock

end Docking
