import Docking.Zone

/-!
# Gestures

A gesture is what the pointer is in the middle of: a tab of the dock that was pressed, or a detached
window that the window system drags over the dock. There is at most one at a time. A pressed tab
is dragged as soon as the pointer has left the square around the place of the press, and stays so.
-/

namespace Docking

/-- What a gesture moves. -/
inductive DragKind where
  /-- A tab that was pressed in a panel. -/
  | tab
  /-- A detached window. -/
  | external
  deriving DecidableEq, Repr

/-- What the pointer is in the middle of. -/
structure Gesture where
  kind : DragKind
  /-- The tab that was pressed. -/
  tab : Option TabId
  /-- The panel in which it was pressed. -/
  source : Option NodeId
  /-- Where the gesture began. -/
  origin : Point
  /-- Where the pointer was seen last. -/
  pointer : Point
  /-- Whether a release would drop something. -/
  dragging : Bool
  /-- Where a release would drop what is held. -/
  target : Option DropTarget
  /-- The hint that is shown for the target. -/
  indicator : Option Indicator
  deriving DecidableEq

namespace Gesture

/-- The press of a tab. -/
def press (tab : TabId) (source : NodeId) (position : Point) : Gesture :=
  ⟨.tab, some tab, some source, position, position, false, none, none⟩

/-- A detached window that enters the dock. It is dragged from the start. -/
def enter (position : Point) : Gesture :=
  ⟨.external, none, none, position, position, true, none, none⟩

/-- Whether a detached window is dragged. -/
def isExternal (g : Gesture) : Bool := g.kind = .external

/-- The gesture with the target that was found under the pointer, in a panel of the given area. -/
def aim (g : Gesture) (found : Option (DropTarget × Rect)) : Gesture :=
  match found with
  | none => { g with target := none, indicator := none }
  | some (target, panel) =>
    { g with target := some target, indicator := some (.ofZone panel target.zone) }

end Gesture

end Docking
