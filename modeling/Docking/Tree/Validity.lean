import Docking.Tree.Basic

/-!
# Checking a layout tree

`Tree.check` walks from the root, second children before first ones, and reports the first broken
rule that it meets. What it has met so far is a `Survey`.

The rules are these.

* The root is in the tree and has no parent.
* A split has two children, and their parent links name the split.
* Every node can be reached from the root.
* A panel that is not the root has a tab.
* The active tab of a panel is one of its tabs, and only an empty panel has none.
* No tab occurs twice.
-/

namespace Docking

namespace Tree

/-- What a walk has met. -/
structure Survey where
  nodes : List NodeId
  tabs : List TabId

/-- The first child of a split whose parent link does not name the split. -/
def strayChild? (t : Tree) (id : NodeId) (split : Split) : Option NodeId :=
  split.children.find? fun child => decide (t.parent? child ≠ some id)

/-- Whether the active tab of a panel is one of its tabs, or none where there is no tab. -/
def activeFits (panel : Panel) : Bool :=
  match panel.active with
  | some tab => panel.contains tab
  | none => panel.isEmpty

/-- Adds the tabs of a panel to those met before, and stops at one that was met already. -/
def surveyTabs : List TabId → List TabId → Except Violation (List TabId)
  | seen, [] => .ok seen
  | seen, tab :: rest =>
    if tab ∈ seen then .error (.duplicateTab tab) else surveyTabs (tab :: seen) rest

/-- Adds a panel to what was met before. -/
def surveyPanel (t : Tree) (id : NodeId) (panel : Panel) (seen : Survey) :
    Except Violation Survey :=
  if panel.isEmpty && decide (id ≠ t.root) then .error (.emptyPanel id)
  else if activeFits panel then
    match surveyTabs seen.tabs panel.tabIds with
    | .error e => .error e
    | .ok tabs => .ok ⟨id :: seen.nodes, tabs⟩
  else .error (.activeTab id)

/-- Walks over a node and all that hangs below it, at most `depth` levels down. A walk along links
that agree never gets to the bottom, since such a path repeats no node. -/
def surveyBelow (t : Tree) : (depth : Nat) → NodeId → Survey → Except Violation Survey
  | 0, id, _ => .error (.brokenParentLink id)
  | depth + 1, id, seen =>
    match t.nodes.get? id with
    | none => .error (.missing id)
    | some node =>
      match node.body with
      | .panel panel => surveyPanel t id panel seen
      | .split split =>
        if split.children.length ≠ 2 then .error (.splitArity id split.children.length)
        else
          match t.strayChild? id split with
          | some child => .error (.brokenParentLink child)
          | none =>
            split.children.reverse.foldlM (fun seen child => surveyBelow t depth child seen)
              ⟨id :: seen.nodes, seen.tabs⟩

/-- Reports a broken rule, if there is one. Nodes that the walk has not met are looked for in a hash
map, in arbitrary order, so any of them may be reported. Here it is the oldest one. -/
def check (t : Tree) : Except Violation Unit :=
  if (t.parent? t.root).isSome then .error (.brokenParentLink t.root)
  else
    match surveyBelow t (t.size + 1) t.root ⟨[], []⟩ with
    | .error e => .error e
    | .ok seen =>
      match t.nodes.keys.find? (· ∉ seen.nodes) with
      | some orphan => .error (.orphan orphan)
      | none => .ok ()

end Tree

end Docking
