import Docking.Tree.Edit

/-!
# What a node is apart from its area

Edits of a tree change links, and a layout pass changes areas. `Tree.link?` reads a node without its
area, so it tells all that edits are about. The lemmas of this module say what every step of an edit
does to it.
-/

namespace Docking

/-- A node without its area. -/
structure Link where
  parent : Option NodeId
  body : NodeBody

/-- The node without its area. -/
def Node.link (n : Node) : Link := ⟨n.parent, n.body⟩

namespace NodeBody

/-- The panel, if it is one. -/
def panel? : NodeBody → Option Panel
  | panel p => some p
  | split _ => none

/-- The split, if it is one. -/
def split? : NodeBody → Option Split
  | panel _ => none
  | split s => some s

/-- Other contents for a panel. A split stays. -/
def setPanel (p : Panel) : NodeBody → NodeBody
  | panel _ => panel p
  | split s => split s

/-- Other contents for a split. A panel stays. -/
def setSplit (s : Split) : NodeBody → NodeBody
  | panel p => panel p
  | split _ => split s

end NodeBody

namespace Tree

/-- The node of a name, without its area. -/
def link? (t : Tree) (id : NodeId) : Option Link := (t.nodes.get? id).map Node.link

theorem exists_node {t : Tree} {id : NodeId} {n : Link} (h : t.link? id = some n) :
    ∃ node, t.nodes.get? id = some node ∧ node.parent = n.parent ∧ node.body = n.body := by
  obtain ⟨node, hnode, rfl⟩ := Option.map_eq_some_iff.1 h
  exact ⟨node, hnode, rfl, rfl⟩

/-! ## Look-ups -/

theorem contains_eq (t : Tree) (id : NodeId) : t.contains id = (t.link? id).isSome := by
  rw [contains, Table.contains, link?, Option.isSome_map]

theorem contains_of_link? {t : Tree} {id : NodeId} {n : Link} (h : t.link? id = some n) :
    t.contains id := by
  rw [contains_eq, h]
  rfl

theorem parent?_eq (t : Tree) (id : NodeId) : t.parent? id = (t.link? id).bind Link.parent := by
  rw [parent?, link?]
  cases t.nodes.get? id <;> rfl

theorem panel?_eq (t : Tree) (id : NodeId) :
    t.panel? id = (t.link? id).bind fun n => n.body.panel? := by
  rw [panel?, link?]
  cases t.nodes.get? id with
  | none => rfl
  | some node =>
      show node.panel? = node.body.panel?
      unfold Node.panel?
      cases node.body <;> rfl

theorem split?_eq (t : Tree) (id : NodeId) :
    t.split? id = (t.link? id).bind fun n => n.body.split? := by
  rw [split?, link?]
  cases t.nodes.get? id with
  | none => rfl
  | some node =>
      show node.split? = node.body.split?
      unfold Node.split?
      cases node.body <;> rfl

theorem panel?_eq_some_iff {t : Tree} {id : NodeId} {p : Panel} :
    t.panel? id = some p ↔ ∃ q, t.link? id = some ⟨q, .panel p⟩ := by
  rw [panel?_eq, Option.bind_eq_some_iff]
  constructor
  · rintro ⟨⟨q, body⟩, h, hbody⟩
    cases body with
    | panel r =>
        rw [show r = p from Option.some.inj hbody] at h
        exact ⟨q, h⟩
    | split s => cases hbody
  · rintro ⟨q, h⟩
    exact ⟨_, h, rfl⟩

theorem split?_eq_some_iff {t : Tree} {id : NodeId} {s : Split} :
    t.split? id = some s ↔ ∃ q, t.link? id = some ⟨q, .split s⟩ := by
  rw [split?_eq, Option.bind_eq_some_iff]
  constructor
  · rintro ⟨⟨q, body⟩, h, hbody⟩
    cases body with
    | panel r => cases hbody
    | split r =>
        rw [show r = s from Option.some.inj hbody] at h
        exact ⟨q, h⟩
  · rintro ⟨q, h⟩
    exact ⟨_, h, rfl⟩

/-! ## Steps of an edit -/

private theorem link?_modify (t : Tree) (id j : NodeId) (f : Node → Node) (g : Link → Link)
    (h : ∀ n, (f n).link = g n.link) :
    ({ t with nodes := t.nodes.modify id f } : Tree).link? j =
      if id = j then (t.link? j).map g else t.link? j := by
  rw [link?, link?, Table.get?_modify]
  split
  · rw [Option.map_map, Option.map_map]
    congr 1
    funext n
    exact h n
  · rfl

theorem link?_setPanel (t : Tree) (id j : NodeId) (p : Panel) :
    (t.setPanel id p).link? j =
      if id = j then (t.link? j).map fun n => ⟨n.parent, n.body.setPanel p⟩ else t.link? j := by
  refine link?_modify t id j _ _ ?_
  rintro ⟨q, rect, body⟩
  cases body <;> rfl

theorem panel?_setPanel (t : Tree) (id j : NodeId) (p : Panel) :
    (t.setPanel id p).panel? j =
      if id = j then (t.panel? j).map fun _ => p else t.panel? j := by
  rw [panel?_eq, link?_setPanel, panel?_eq]
  split
  · cases t.link? j with
    | none => rfl
    | some n =>
        obtain ⟨q, body⟩ := n
        cases body <;> rfl
  · rfl

/-- A panel that is written over with itself. -/
theorem setPanel_self {t : Tree} {id : NodeId} {p : Panel} (h : t.panel? id = some p) :
    t.setPanel id p = t := by
  rw [setPanel, Table.modify_eq_self]
  rintro ⟨q, rect, body⟩ hn
  rw [panel?, hn, Option.bind_some] at h
  cases body with
  | panel r => rw [show r = p from Option.some.inj h]
  | split s => rfl

theorem link?_setSplit (t : Tree) (id j : NodeId) (s : Split) :
    (t.setSplit id s).link? j =
      if id = j then (t.link? j).map fun n => ⟨n.parent, n.body.setSplit s⟩ else t.link? j := by
  refine link?_modify t id j _ _ ?_
  rintro ⟨q, rect, body⟩
  cases body <;> rfl

theorem link?_setParent (t : Tree) (id j : NodeId) (q : Option NodeId) :
    (t.setParent id q).link? j =
      if id = j then (t.link? j).map fun n => ⟨q, n.body⟩ else t.link? j :=
  link?_modify t id j _ _ fun _ => rfl

theorem link?_dropNode (t : Tree) (id j : NodeId) :
    (t.dropNode id).link? j = if id = j then none else t.link? j := by
  rw [link?, dropNode, Table.get?_erase]
  split <;> rfl

theorem link?_addNode (t : Tree) (node : Node) (j : NodeId) :
    (t.addNode node).2.link? j =
      if ⟨t.nextNode⟩ = j then some node.link else t.link? j := by
  rw [link?, addNode, Table.get?_insert]
  split <;> rfl

/-! ## Areas -/

theorem map_link_modify (nodes : Table NodeId Node) (id j : NodeId) (rect : Rect) :
    ((nodes.modify id fun n => { n with rect }).get? j).map Node.link =
      (nodes.get? j).map Node.link := by
  rw [Table.get?_modify]
  split
  · rw [Option.map_map]
    rfl
  · rfl

/-- A layout pass changes areas only. -/
theorem map_link_arrange (depth : Nat) (id j : NodeId) (rect : Rect) (nodes : Table NodeId Node) :
    ((arrange depth id rect nodes).get? j).map Node.link = (nodes.get? j).map Node.link := by
  induction depth generalizing id rect nodes with
  | zero => rfl
  | succ depth ih =>
      rw [arrange]
      split
      · rfl
      · dsimp only
        split
        · exact map_link_modify ..
        · split
          · exact map_link_modify ..
          · rw [ih, map_link_modify]
          · rw [ih, ih, map_link_modify]

@[simp] theorem link?_computeLayout (t : Tree) (viewport : Rect) (j : NodeId) :
    (t.computeLayout viewport).link? j = t.link? j :=
  map_link_arrange ..

@[simp] theorem link?_relayout (t : Tree) (j : NodeId) : t.relayout.link? j = t.link? j :=
  link?_computeLayout ..

end Tree

end Docking
