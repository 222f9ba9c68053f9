import Docking.Ident

/-!
# Items

The dock keeps an item for every open tab: what it shows, and whether it is docked in a panel or
floats in a window of its own.
-/

namespace Docking

/-- Where an item is. -/
inductive Placement where
  /-- In a panel, whose tab holds the surface. -/
  | docked (panel : NodeId)
  /-- In a window of its own, which is known as soon as the window host has opened it. -/
  | floating (window : Option Window) (surface : Surface)
  deriving DecidableEq, Repr

/-- An open tab. -/
structure Item where
  id : TabId
  title : String
  /-- The plugin that the content comes from. -/
  plugin : String
  placement : Placement
  deriving DecidableEq, Repr

namespace Item

/-- The panel of a docked item. -/
def panel? (i : Item) : Option NodeId :=
  match i.placement with
  | .docked panel => some panel
  | .floating .. => none

/-- The window of a floating item, if it is known. -/
def window? (i : Item) : Option Window :=
  match i.placement with
  | .docked _ => none
  | .floating window _ => window

/-- Whether an item floats. -/
def isFloating (i : Item) : Bool :=
  match i.placement with
  | .docked _ => false
  | .floating .. => true

end Item

end Docking
