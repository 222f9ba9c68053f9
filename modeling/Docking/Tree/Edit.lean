import Docking.Tree.Basic

/-!
# Structural edits

Splitting a panel, removing a panel and closing the gap it leaves. An edit that changes several
links can be refused half way, so such an edit returns the tree beside its outcome.

## Main definitions

* `Tree.replaceNode`: puts a node where another one sits.
* `Tree.splitPanel`: puts a new split where a panel sits, with the panel and a new one below it.
* `Tree.removePanel`: removes a panel and puts the survivor of its split where the split sat.
* `Tree.prune`: removes empty panels until none is left besides the root.
-/

namespace Docking

namespace Tree

/-- Adds a panel that hangs nowhere. -/
def insertPanel (t : Tree) (panel : Panel) : NodeId × Tree := t.addNode (.ofPanel panel)

/-- Takes a node out that has no parent and is not the root. -/
def takeDetached (t : Tree) (id : NodeId) : Option (Node × Tree) :=
  match t.nodes.get? id with
  | none => none
  | some node => if node.parent.isSome ∨ id = t.root then none else some (node, t.dropNode id)

/-- Changes the link that leads down to `old` so that it leads to `new`. The link is in the parent
of `old`, or it is the root. -/
def redirect (t : Tree) (parent : Option NodeId) (old new : NodeId) : Except EditError Tree :=
  match parent with
  | none => if old = t.root then .ok { t with root := new } else .error (.detached old)
  | some p =>
    match t.nodes.get? p with
    | none => .error (.unknownNode p)
    | some node =>
      match node.split? with
      | none => .error (.notASplit p)
      | some split =>
        match split.replaceChild old new with
        | none => .error (.detached old)
        | some split => .ok (t.setSplit p split)

/-- Puts `new` where `old` sits. After this `old` hangs nowhere. -/
def replaceNode (t : Tree) (old new : NodeId) : Except EditError Tree :=
  if t.contains new then
    match t.nodes.get? old with
    | none => .error (.unknownNode old)
    | some node =>
      match t.redirect node.parent old new with
      | .error e => .error e
      | .ok t => .ok ((t.setParent new node.parent).setParent old none)
  else .error (.unknownNode new)

/-- Why a name can not be used where a panel is needed. -/
def panelFault? (t : Tree) (id : NodeId) : Option EditError :=
  match t.nodes.get? id with
  | none => some (.unknownNode id)
  | some node => if node.panel?.isSome then none else some (.notAPanel id)

/-- Puts a new split where the panel `target` sits and hangs `target` and `newPanel` below it,
`newPanel` first if `newFirst`. The outcome is the name of the split. -/
def splitPanel (t : Tree) (target newPanel : NodeId) (orientation : Orientation) (newFirst : Bool) :
    Except EditError NodeId × Tree :=
  match t.panelFault? target, t.panelFault? newPanel with
  | some e, _ => (.error e, t)
  | none, some e => (.error e, t)
  | none, none =>
    let (first, second) := if newFirst then (newPanel, target) else (target, newPanel)
    let (id, t) := t.addNode (.ofSplit (.pair orientation first second))
    match t.replaceNode target id with
    | .error e => (.error e, t)
    | .ok t => (.ok id, ((t.setParent first (some id)).setParent second (some id)).relayout)

/-- Puts the last child of a split where the split sits, and removes the split. -/
def collapse (t : Tree) (split survivor : NodeId) : Except EditError Tree :=
  match t.replaceNode split survivor with
  | .error e => .error e
  | .ok t => .ok (t.dropNode split)

/-- Removes a panel and closes the gap: a split that is left with one child gives its place to that
child. The root is never removed, which the outcome `false` says. -/
def removePanel (t : Tree) (id : NodeId) : Except EditError Bool × Tree :=
  match t.nodes.get? id with
  | none => (.error (.unknownNode id), t)
  | some node =>
    if node.panel?.isNone then (.error (.notAPanel id), t)
    else if id = t.root then (.ok false, t)
    else
      match node.parent with
      | none => (.error (.detached id), t)
      | some p =>
        match t.nodes.get? p with
        | none => (.error (.unknownNode p), t)
        | some parent =>
          match parent.split? with
          | none => (.error (.notASplit p), t)
          | some split =>
            let (split, survivor) := split.removeChild id
            let t := (t.setSplit p split).dropNode id
            match survivor with
            | none => (.ok true, t)
            | some survivor =>
              match t.collapse p survivor with
              | .error e => (.error e, t)
              | .ok t => (.ok true, t)

/-- The first empty panel other than the root. -/
def emptyPanel? (t : Tree) : Option NodeId :=
  t.findPanel? fun id panel => decide (id ≠ t.root) && panel.isEmpty

/-- Removes the first empty panel, at most `rounds` times. The number says how often. -/
def pruneRounds : (rounds : Nat) → Tree → Nat × Tree
  | 0, t => (0, t)
  | rounds + 1, t =>
    match t.emptyPanel? with
    | none => (0, t)
    | some id =>
      match t.removePanel id with
      | (.ok true, t) =>
        let (count, t) := pruneRounds rounds t
        (count + 1, t)
      | (_, t) => (0, t)

/-- Removes empty panels until none is left besides the root, and says how many there were. Each
removal takes a node away, so there are no more rounds than nodes. -/
def prune (t : Tree) : Nat × Tree :=
  let (count, pruned) := pruneRounds t.size t
  (count, if count > 0 then pruned.relayout else pruned)

end Tree

end Docking
