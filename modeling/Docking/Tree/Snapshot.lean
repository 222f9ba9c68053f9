import Docking.Tree.Basic

/-!
# Snapshots

A snapshot is a layout as an ordinary tree: a copy for printing and for comparison that shares
nothing with the dock. It exists unless a split names a child that is not there.
-/

namespace Docking

/-- A tab as a snapshot shows it. -/
structure TabLabel where
  id : TabId
  title : String
  deriving DecidableEq, Repr

/-- A layout as an ordinary tree. -/
inductive Snapshot where
  | panel (id : NodeId) (rect : Rect) (tabs : List TabLabel) (active : Option TabId)
  | split (id : NodeId) (orientation : Orientation) (ratio : Float32) (children : List Snapshot)

namespace Snapshot

/-- The topmost node. -/
def id : Snapshot → NodeId
  | panel id .. => id
  | split id .. => id

end Snapshot

namespace Tree

/-- The snapshot of a node and all that hangs below it, if it is at most `depth` levels deep and no
child is missing. -/
def snapshotBelow (t : Tree) : (depth : Nat) → NodeId → Option Snapshot
  | 0, _ => none
  | depth + 1, id =>
    match t.nodes.get? id with
    | none => none
    | some node =>
      match node.body with
      | .panel p =>
        some (.panel id node.rect (p.tabs.map fun tab => ⟨tab.id, tab.title⟩) p.active)
      | .split s =>
        (s.children.mapM (snapshotBelow t depth)).map (.split id s.orientation s.ratio)

/-- The snapshot of the layout, if no child is missing. -/
def snapshot? (t : Tree) : Option Snapshot := t.snapshotBelow t.size t.root

end Tree

end Docking
