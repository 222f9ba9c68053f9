import Docking.Dock.Basic
import Docking.Tree.Validity

/-!
# Checking a dock

A dock is in order if its layout is, if every docked item is shown in the panel that the item names,
and if every tab that is shown has such an item.
-/

namespace Docking

namespace Dock

/-- Whether a docked item is shown where it says. -/
def isShown (d : Dock) (i : Item) : Bool :=
  match i.panel? with
  | none => true
  | some panel => (d.tree.panel? panel).any (·.contains i.id)

/-- An item that is not shown where it says. A hash map of the items is searched in arbitrary order,
so any such item may be reported. Here it is the one of the oldest tab. -/
def strayItem? (d : Dock) : Option Violation :=
  match d.items.values.find? fun i => !d.isShown i with
  | none => none
  | some i => i.panel?.map (.itemNotInPanel i.id)

/-- The first tab of the layout that has no item there. -/
def strayTab? (d : Dock) : Option Violation :=
  d.tree.panelIds.findSome? fun id =>
    match d.tree.panel? id with
    | none => none
    | some panel =>
      (panel.tabIds.find? fun tab => d.panelOf? tab != some id).map .tabWithoutItem

/-- Reports a broken rule, if there is one. -/
def check (d : Dock) : Except Violation Unit :=
  match d.tree.check with
  | .error v => .error v
  | .ok () =>
    match d.strayItem? with
    | some v => .error v
    | none =>
      match d.strayTab? with
      | some v => .error v
      | none => .ok ()

end Dock

end Docking
