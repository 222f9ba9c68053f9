import Docking.Panel
import Docking.Split

/-!
# Layout trees

A layout is a tree whose leaves are panels and whose inner nodes are splits. The nodes lie in a
table under their names; a split holds the names of its children and every node holds the name of
its parent, so an edit is a change of a few table entries.

Nothing in the type `Tree` forces the links to agree: they do after every operation of a dock, which
is a theorem and no part of the type. The walks of this module are total for every table of nodes.
They descend at most as many levels as there are nodes, which is as far as a path that repeats no
node can go.

## Main definitions

* `Tree`, `Tree.new`: a layout, and the layout of one empty panel.
* `Tree.panelIds`, `Tree.firstPanel?`, `Tree.findTab`, `Tree.panelAt`: walks over the panels.
* `Tree.computeLayout`, `Tree.relayout`: giving every node its area.
-/

namespace Docking

/-- What a node is. -/
inductive NodeBody where
  | panel (panel : Panel)
  | split (split : Split)
  deriving DecidableEq

/-- A node of a layout. -/
structure Node where
  /-- The split that holds the node. -/
  parent : Option NodeId
  /-- The area that the last layout gave to the node. -/
  rect : Rect
  /-- The panel or the split itself. -/
  body : NodeBody
  deriving DecidableEq

namespace Node

/-- A panel that hangs nowhere yet. -/
def ofPanel (panel : Panel) : Node := ⟨none, .zero, .panel panel⟩

/-- A split that hangs nowhere yet. -/
def ofSplit (split : Split) : Node := ⟨none, .zero, .split split⟩

/-- The node as a panel. -/
def panel? (n : Node) : Option Panel :=
  match n.body with
  | .panel p => some p
  | .split _ => none

/-- The node as a split. -/
def split? (n : Node) : Option Split :=
  match n.body with
  | .panel _ => none
  | .split s => some s

end Node

/-- A layout tree. -/
structure Tree where
  /-- All nodes, also those that hang nowhere. -/
  nodes : Table NodeId Node
  /-- The topmost node. -/
  root : NodeId
  /-- The number that the next node will get. -/
  nextNode : Nat
  /-- The area that the last layout divided. -/
  viewport : Rect

namespace Tree

/-- The layout that is one empty panel. -/
def new : Tree := ⟨Table.empty.insert ⟨1⟩ (.ofPanel .empty), ⟨1⟩, 2, .zero⟩

instance : Inhabited Tree := ⟨new⟩

/-! ## Looking at nodes -/

/-- The number of nodes. -/
def size (t : Tree) : Nat := t.nodes.size

/-- Whether a name stands for a node. -/
def contains (t : Tree) (id : NodeId) : Bool := t.nodes.contains id

/-- The parent of a node. -/
def parent? (t : Tree) (id : NodeId) : Option NodeId := (t.nodes.get? id).bind Node.parent

/-- The panel of a name. -/
def panel? (t : Tree) (id : NodeId) : Option Panel := (t.nodes.get? id).bind Node.panel?

/-- The split of a name. -/
def split? (t : Tree) (id : NodeId) : Option Split := (t.nodes.get? id).bind Node.split?

/-- The area of a node. -/
def rect? (t : Tree) (id : NodeId) : Option Rect := (t.nodes.get? id).map Node.rect

/-- The tree with other contents of a panel. A name that stands for no panel changes nothing. -/
def setPanel (t : Tree) (id : NodeId) (panel : Panel) : Tree :=
  { t with nodes := t.nodes.modify id fun n =>
      match n.body with
      | .panel _ => { n with body := .panel panel }
      | .split _ => n }

/-- The tree with other contents of a split. A name that stands for no split changes nothing. -/
def setSplit (t : Tree) (id : NodeId) (split : Split) : Tree :=
  { t with nodes := t.nodes.modify id fun n =>
      match n.body with
      | .panel _ => n
      | .split _ => { n with body := .split split } }

/-- The tree with another parent link at a node. -/
def setParent (t : Tree) (id : NodeId) (parent : Option NodeId) : Tree :=
  { t with nodes := t.nodes.modify id fun n => { n with parent } }

/-- The tree without a node. Links to the node stay as they are. -/
def dropNode (t : Tree) (id : NodeId) : Tree := { t with nodes := t.nodes.erase id }

/-- Adds a node that hangs nowhere, under a new name. -/
def addNode (t : Tree) (node : Node) : NodeId × Tree :=
  let id : NodeId := ⟨t.nextNode⟩
  (id, { t with nodes := t.nodes.insert id node, nextNode := t.nextNode + 1 })

/-! ## Walks over the panels -/

/-- The panels at and below a node, at most `depth` levels down, a first child's before a second
child's. -/
def panelsBelow (t : Tree) : (depth : Nat) → NodeId → List NodeId
  | 0, _ => []
  | depth + 1, id =>
    match t.nodes.get? id with
    | none => []
    | some node =>
      match node.body with
      | .panel _ => [id]
      | .split s => s.children.flatMap (panelsBelow t depth)

/-- The panels of the layout, a first child's before a second child's. -/
def panelIds (t : Tree) : List NodeId := t.panelsBelow t.size t.root

/-- The panel that is met by going to first children only, at most `depth` levels down. -/
def firstPanelBelow (t : Tree) : (depth : Nat) → NodeId → Option NodeId
  | 0, _ => none
  | depth + 1, id =>
    match t.nodes.get? id with
    | none => none
    | some node =>
      match node.body with
      | .panel _ => some id
      | .split s =>
        match s.children with
        | [] => none
        | child :: _ => firstPanelBelow t depth child

/-- The panel that is met by going to first children only. -/
def firstPanel? (t : Tree) : Option NodeId := t.firstPanelBelow t.size t.root

/-- The first panel whose contents satisfy a test. -/
def findPanel? (t : Tree) (test : NodeId → Panel → Bool) : Option NodeId :=
  t.panelIds.find? fun id => (t.panel? id).any (test id)

/-- The panel that holds a tab. -/
def findTab (t : Tree) (tab : TabId) : Option NodeId :=
  t.findPanel? fun _ panel => panel.contains tab

/-- The panel whose area holds a point. -/
def panelAt (t : Tree) (p : Point) : Option NodeId :=
  t.panelIds.find? fun id => (t.rect? id).any (·.contains p)

/-! ## Areas -/

/-- Gives an area to a node and divides it among the nodes below, at most `depth` levels down. -/
def arrange : (depth : Nat) → NodeId → Rect → Table NodeId Node → Table NodeId Node
  | 0, _, _, nodes => nodes
  | depth + 1, id, rect, nodes =>
    match nodes.get? id with
    | none => nodes
    | some node =>
      let nodes := nodes.modify id fun n => { n with rect }
      match node.body with
      | .panel _ => nodes
      | .split s =>
        let areas := s.childRects rect
        match s.children with
        | [] => nodes
        | [only] => arrange depth only areas.1 nodes
        | first :: second :: _ =>
          arrange depth second areas.2 (arrange depth first areas.1 nodes)

/-- Divides an area among all nodes that hang on the root. -/
def computeLayout (t : Tree) (viewport : Rect) : Tree :=
  { t with nodes := arrange t.size t.root viewport t.nodes, viewport }

/-- Divides the area of the last layout again. -/
def relayout (t : Tree) : Tree := t.computeLayout t.viewport

end Tree

end Docking
