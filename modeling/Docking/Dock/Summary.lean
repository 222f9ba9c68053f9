import Docking.Dock.Basic

/-!
# Summaries

A summary counts what is in a dock, to say in a few words what an operation has changed.
-/

namespace Docking

/-- The numbers of panels, splits, docked tabs and floating tabs. -/
structure Summary where
  panels : Nat
  splits : Nat
  docked : Nat
  floating : Nat
  deriving DecidableEq, Repr

namespace Summary

/-- The summary of a dock. Nodes that are no panels are splits, and items that do not float are
docked. -/
def ofDock (d : Dock) : Summary :=
  let panels := d.tree.panelIds.length
  let floating := d.items.values.countP Item.isFloating
  ⟨panels, d.tree.size - panels, d.items.size - floating, floating⟩

/-- What is said about one count. -/
def change? (name : String) (before after : Nat) : Option String :=
  if before = after then none else some s!"{name}: {before} → {after}"

/-- What is different in `after`, if anything is. -/
def diff? (before after : Summary) : Option String :=
  let changes := [change? "panels" before.panels after.panels,
    change? "splits" before.splits after.splits,
    change? "docked" before.docked after.docked,
    change? "floating" before.floating after.floating].filterMap id
  if changes.isEmpty then none else some ("; ".intercalate changes)

end Summary

end Docking
