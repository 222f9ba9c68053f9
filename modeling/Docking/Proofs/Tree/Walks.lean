import Docking.Proofs.Tree.Holds
import Docking.Tree.Snapshot
import Mathlib.Data.List.Find

/-!
# Walks over a tree that holds a layout

The walks of a tree descend as many levels as there are nodes. A layout has at most as many levels
as nodes, so no walk is cut off, and each of them reads the layout.

## Main results

* `Carries.panelIds_eq`, `Carries.panelList_eq`: the walk over the panels lists the panels of the
  layout.
* `Carries.firstPanel?_eq`: going to first children ends at the first panel.
* `Carries.layout?_eq`: the layout that is read off a tree.
* `Carries.snapshot?_isSome`: a snapshot misses no node.
-/

namespace Docking

namespace Layout

/-- The panel that is met first. -/
def firstPanel : Layout → NodeId
  | panel id _ => id
  | split _ _ _ a _ => a.firstPanel

/-- The panel that is met first comes before all others. -/
theorem exists_head?_panels (l : Layout) : ∃ p, l.panels.head? = some (l.firstPanel, p) := by
  induction l with
  | panel id p => exact ⟨p, rfl⟩
  | split id o r a b iha ihb =>
      obtain ⟨p, hp⟩ := iha
      exact ⟨p, by rw [panels, List.head?_append, hp, firstPanel, Option.some_or]⟩

theorem exists_firstPanel (l : Layout) : ∃ p, (l.firstPanel, p) ∈ l.panels := by
  obtain ⟨p, hp⟩ := l.exists_head?_panels
  exact ⟨p, List.mem_of_head? hp⟩

end Layout

namespace Tree

open Layout hiding id

/-- The panels with their contents, a first child's before a second child's. -/
def panelList (t : Tree) : List (NodeId × Panel) :=
  t.panelIds.filterMap fun id => (t.panel? id).map (Prod.mk id)

/-- The layout at a node, if it is at most `depth` levels deep, no child is missing and every split
has two. -/
def layoutBelow (t : Tree) : (depth : Nat) → NodeId → Option Layout
  | 0, _ => none
  | depth + 1, id =>
    match t.nodes.get? id with
    | none => none
    | some node =>
      match node.body with
      | .panel p => some (.panel id p)
      | .split s =>
        match s.children with
        | [a, b] =>
          (t.layoutBelow depth a).bind fun first =>
            (t.layoutBelow depth b).map (.split id s.orientation s.ratio first)
        | _ => none

/-- The layout of a tree as an ordinary tree. -/
def layout? (t : Tree) : Option Layout := t.layoutBelow t.size t.root

section Walks

variable {t : Tree} {q : Option NodeId} {l : Layout} {depth : Nat}

theorem Hangs.panelsBelow_eq (h : t.Hangs q l) (hdepth : l.height ≤ depth) :
    t.panelsBelow depth l.id = l.panels.map Prod.fst := by
  induction l generalizing q depth with
  | panel id p =>
      obtain ⟨node, hnode, -, hbody⟩ := exists_node h
      obtain ⟨d, rfl⟩ := Nat.exists_eq_add_of_le' hdepth
      simp only [height, id_panel, panelsBelow, hnode, hbody, panels, List.map_cons, List.map_nil]
  | split id o r a b iha ihb =>
      obtain ⟨hid, ha, hb⟩ := h
      obtain ⟨node, hnode, -, hbody⟩ := exists_node hid
      obtain ⟨d, rfl⟩ := Nat.exists_eq_add_of_le' (Nat.le_trans (Nat.le_add_left 1 _) hdepth)
      have hdepth : max a.height b.height + 1 ≤ d + 1 := hdepth
      simp only [id_split, panelsBelow, hnode, hbody, panels, List.map_append]
      simp only [List.flatMap_cons, List.flatMap_nil, List.append_nil]
      rw [iha ha (by omega), ihb hb (by omega)]

theorem Hangs.firstPanelBelow_eq (h : t.Hangs q l) (hdepth : l.height ≤ depth) :
    t.firstPanelBelow depth l.id = some l.firstPanel := by
  induction l generalizing q depth with
  | panel id p =>
      obtain ⟨node, hnode, -, hbody⟩ := exists_node h
      obtain ⟨d, rfl⟩ := Nat.exists_eq_add_of_le' hdepth
      simp only [height, id_panel, firstPanelBelow, hnode, hbody, firstPanel]
  | split id o r a b iha ihb =>
      obtain ⟨hid, ha, hb⟩ := h
      obtain ⟨node, hnode, -, hbody⟩ := exists_node hid
      obtain ⟨d, rfl⟩ := Nat.exists_eq_add_of_le' (Nat.le_trans (Nat.le_add_left 1 _) hdepth)
      have hdepth : max a.height b.height + 1 ≤ d + 1 := hdepth
      simp only [id_split, firstPanelBelow, hnode, hbody, firstPanel]
      exact iha ha (by omega)

theorem Hangs.layoutBelow_eq (h : t.Hangs q l) (hdepth : l.height ≤ depth) :
    t.layoutBelow depth l.id = some l := by
  induction l generalizing q depth with
  | panel id p =>
      obtain ⟨node, hnode, -, hbody⟩ := exists_node h
      obtain ⟨d, rfl⟩ := Nat.exists_eq_add_of_le' hdepth
      simp only [height, id_panel, layoutBelow, hnode, hbody]
  | split id o r a b iha ihb =>
      obtain ⟨hid, ha, hb⟩ := h
      obtain ⟨node, hnode, -, hbody⟩ := exists_node hid
      obtain ⟨d, rfl⟩ := Nat.exists_eq_add_of_le' (Nat.le_trans (Nat.le_add_left 1 _) hdepth)
      have hdepth : max a.height b.height + 1 ≤ d + 1 := hdepth
      simp only [id_split, layoutBelow, hnode, hbody]
      rw [iha ha (by omega), ihb hb (by omega)]
      rfl

theorem Hangs.snapshotBelow_isSome (h : t.Hangs q l) (hdepth : l.height ≤ depth) :
    ∃ s, t.snapshotBelow depth l.id = some s := by
  induction l generalizing q depth with
  | panel id p =>
      obtain ⟨node, hnode, -, hbody⟩ := exists_node h
      obtain ⟨d, rfl⟩ := Nat.exists_eq_add_of_le' hdepth
      simp only [height, id_panel, snapshotBelow, hnode, hbody]
      exact ⟨_, rfl⟩
  | split id o r a b iha ihb =>
      obtain ⟨hid, ha, hb⟩ := h
      obtain ⟨node, hnode, -, hbody⟩ := exists_node hid
      obtain ⟨d, rfl⟩ := Nat.exists_eq_add_of_le' (Nat.le_trans (Nat.le_add_left 1 _) hdepth)
      have hdepth : max a.height b.height + 1 ≤ d + 1 := hdepth
      obtain ⟨first, hfirst⟩ := iha ha (show a.height ≤ d by omega)
      obtain ⟨second, hsecond⟩ := ihb hb (show b.height ≤ d by omega)
      simp only [id_split, snapshotBelow, hnode, hbody, List.mapM_cons, List.mapM_nil, hfirst,
        hsecond]
      exact ⟨_, rfl⟩

theorem Carries.panelIds_eq (h : t.Carries l) : t.panelIds = l.panels.map Prod.fst := by
  rw [panelIds, h.root]
  exact h.hangs.panelsBelow_eq h.height_le

/-- The contents of the panels are those in the layout. -/
theorem Hangs.filterMap_panel? (h : t.Hangs q l) :
    (l.panels.map Prod.fst).filterMap (fun id => (t.panel? id).map (Prod.mk id)) = l.panels := by
  rw [List.filterMap_map]
  refine (List.filterMap_congr fun x hx => ?_).trans List.filterMap_some
  have hpanel : t.panel? x.1 = some x.2 := panel?_eq_some_iff.2 (h.link_of_mem_panels hx)
  rw [Function.comp_apply, hpanel]
  rfl

theorem Carries.panelList_eq (h : t.Carries l) : t.panelList = l.panels := by
  rw [panelList, h.panelIds_eq, h.hangs.filterMap_panel?]

theorem Carries.firstPanel?_eq (h : t.Carries l) : t.firstPanel? = some l.firstPanel := by
  rw [firstPanel?, h.root]
  exact h.hangs.firstPanelBelow_eq h.height_le

theorem Carries.layout?_eq (h : t.Carries l) : t.layout? = some l := by
  rw [layout?, h.root]
  exact h.hangs.layoutBelow_eq h.height_le

theorem Carries.snapshot?_isSome (h : t.Carries l) : t.snapshot?.isSome := by
  rw [snapshot?, h.root, Option.isSome_iff_exists]
  exact h.hangs.snapshotBelow_isSome h.height_le

/-- A search among the panels of a tree is a search among the panels of its layout. -/
theorem Carries.findPanel?_eq (h : t.Carries l) (test : NodeId → Panel → Bool) :
    t.findPanel? test = (l.panels.find? fun x => test x.1 x.2).map Prod.fst := by
  rw [findPanel?, h.panelIds_eq, List.find?_map]
  have hany : ∀ x ∈ l.panels, (t.panel? x.1).any (test x.1) = test x.1 x.2 := by
    intro x hx
    have hx : t.panel? x.1 = some x.2 := h.panel?_of_mem hx
    rw [hx]
    rfl
  exact congrArg _ (List.find?_congr hany)

end Walks

end Tree

end Docking
