import Docking.Ident

/-!
# What can be wrong with a layout tree

`EditError` says why a structural edit was refused; `Violation` says which rule of a well-formed
layout is broken. The wordings are in `EditError.message` and `Violation.message`.
-/

namespace Docking

/-- Why a structural edit was refused. -/
inductive EditError where
  /-- The name stands for no node of the tree. -/
  | unknownNode (id : NodeId)
  /-- The node is not a panel. -/
  | notAPanel (id : NodeId)
  /-- The node is not a split. -/
  | notASplit (id : NodeId)
  /-- The split has two children already; `id` is the one that was to be added. -/
  | splitFull (id : NodeId)
  /-- The node hangs on no split and is not the root. -/
  | detached (id : NodeId)
  deriving DecidableEq, Repr

/-- A broken rule of a well-formed layout. -/
inductive Violation where
  /-- A panel other than the root has no tab. -/
  | emptyPanel (id : NodeId)
  /-- A split does not have two children. -/
  | splitArity (split : NodeId) (children : Nat)
  /-- A node's parent is not the node that holds it. -/
  | brokenParentLink (node : NodeId)
  /-- The root is not in the tree. -/
  | missing (node : NodeId)
  /-- A node of the tree can not be reached from the root. -/
  | orphan (node : NodeId)
  /-- A panel's active tab is none of its tabs, or a panel with tabs has no active one. -/
  | activeTab (panel : NodeId)
  /-- A tab occurs twice. -/
  | duplicateTab (tab : TabId)
  /-- A docked tab is not in the panel that its record names. -/
  | itemNotInPanel (tab : TabId) (panel : NodeId)
  /-- A tab of a panel has no record of being docked there. -/
  | tabWithoutItem (tab : TabId)
  deriving DecidableEq, Repr

/-- The wording of a refused edit. -/
def EditError.message : EditError → String
  | unknownNode id => s!"unknown node {id.text}"
  | notAPanel id => s!"{id.text} is not a panel"
  | notASplit id => s!"{id.text} is not a split"
  | splitFull id => s!"cannot add {id.text}: split already full"
  | detached id => s!"{id.text} is detached from the tree"

/-- The wording of a broken rule. -/
def Violation.message : Violation → String
  | emptyPanel id => s!"non-root panel {id.text} is empty"
  | splitArity split children => s!"split {split.text} has {children} children"
  | brokenParentLink node => s!"{node.text} has a broken parent link"
  | missing node => s!"{node.text} is unreachable from the root"
  | orphan node => s!"{node.text} is unreachable from the root"
  | activeTab panel => s!"panel {panel.text} has an invalid active tab"
  | duplicateTab tab => s!"{tab.text} appears in more than one place"
  | itemNotInPanel tab panel => s!"{tab.text} is registered in {panel.text} but not shown there"
  | tabWithoutItem tab => s!"{tab.text} is shown but not registered"

end Docking
