import Docking.Dock.Tabs
import Docking.Payload

/-!
# Drag and drop

The pointer presses a tab, drags it and drops it; the window system drags a detached window over the
dock and drops it there. The two kinds of gesture do not disturb each other: the pointer's moves
concern a pressed tab only, and the window system's reports a detached window only.
-/

namespace Docking

namespace Dock

/-- The panel and the zone under a point, with the area of the panel. -/
def hitTest (d : Dock) (point : Point) : Option (DropTarget × Rect) :=
  match d.tree.panelAt point with
  | none => none
  | some panel =>
    match d.tree.rect? panel with
    | none => none
    | some rect =>
      (rect.fractions point).map fun (fx, fy) =>
        (⟨panel, Zone.classify fx fy d.settings.edge⟩, rect)

/-- Ends the gesture. -/
def dropGesture (d : Dock) : Dock := { d with gesture := none }

/-- Begins a gesture with a docked tab, if the tab is docked. -/
def press (d : Dock) (tab : TabId) (point : Point) : Dock :=
  match d.panelOf? tab with
  | none => d
  | some panel => { d with gesture := some (.press tab panel point) }

/-- The pointer is pressed on a tab. A second press is ignored. A press during the drag of a window
means that the window has left. -/
def pointerDown (d : Dock) (tab : TabId) (point : Point) : Dock :=
  match d.gesture with
  | none => d.press tab point
  | some g => if g.isExternal then (d.dropGesture.emit .redraw).press tab point else d

/-- The pointer is moved. Only a pressed tab takes notice, and only from the first move on that
leaves the square around the press. -/
def pointerMove (d : Dock) (point : Point) : Dock :=
  match d.gesture with
  | none => d
  | some g =>
    match g.kind with
    | .external => d
    | .tab =>
      let g := { g with pointer := point }
      if g.dragging || point.exceeds g.origin d.settings.threshold then
        { d with gesture := some ({ g with dragging := true }.aim (d.hitTest point)) }.emit .redraw
      else { d with gesture := some g }

/-- The pointer is released. A pressed tab is shown; a dragged one is moved to the target, or floats
if there is none. -/
def pointerUp (d : Dock) : Dock :=
  match d.gesture with
  | none => d
  | some g =>
    let d := d.dropGesture
    match g.kind, g.tab with
    | .tab, some tab =>
      if g.dragging then
        match g.target with
        | none => (d.floatTab tab).emit .redraw
        | some target => (d.moveTab tab target).2.emit .redraw
      else d.activateTab tab
    | _, _ => d.emit .redraw

/-- The gesture is given up. -/
def cancelDrag (d : Dock) : Dock :=
  if d.gesture.isSome then d.dropGesture.emit .redraw else d

/-- A detached window is over the dock. -/
def externalOver (d : Dock) (point : Point) : Dock :=
  let hover (g : Gesture) : Dock :=
    { d with gesture := some ({ g with pointer := point }.aim (d.hitTest point)) }.emit .redraw
  match d.gesture with
  | none => hover (.enter point)
  | some g => if g.isExternal then hover g else d

/-- A detached window has left the dock. -/
def externalLeave (d : Dock) : Dock :=
  if d.externalDrag then d.dropGesture.emit .redraw else d

/-- A detached window is dropped on the dock. If it shows a floating tab, that tab is docked; or
else a new tab of its plugin is asked for. The window is to be closed. -/
def dropWindow (d : Dock) (payload : Payload) (shown : Option TabId) (point : Point) : Dock :=
  let d := if d.externalDrag then d.dropGesture else d
  let target := (d.hitTest point).map Prod.fst
  let d :=
    match shown with
    | some tab => (d.dockFloating tab target).2
    | none => d.emit (.instantiate payload.plugin target)
  let d := payload.window.elim d fun w => d.emit (.closeWindow w)
  d.emit .redraw

/-- A detached window is dropped on the dock, which looks for the tab that it shows. -/
def externalDrop (d : Dock) (payload : Payload) (point : Point) : Dock :=
  d.dropWindow payload (payload.window.bind d.findWindow) point

end Dock

end Docking
