import Docking.Proofs.Dock.Areas
import Docking.Proofs.Geometry.Tiling
import Docking.Proofs.Tree.Walks

/-!
# Panels tile the viewport

Every split divides its area between its parts, so the panels of a layout divide the whole area
among themselves: as long as nothing is rounded, a point of the viewport lies in exactly one panel,
and a point elsewhere in none. So it does not matter in which order panels are tried when the one
under the pointer is looked for.

## Main definitions

* `Tree.Exact`: nothing that is computed for the areas of a tree is rounded.
* `Tree.covers`: a point lies in the area of a node.

## Main results

* `Layout.existsUnique_covers`, `Layout.spans_of_covers`: panels divide an area among themselves.
* `run_tiles`: panels tile the viewport after every run.
-/

namespace Docking

/-- What is computed for the area of a node is exact: the borders of a panel, the parts of a
split. -/
def Node.Exact (n : Node) : Prop :=
  match n.body with
  | .panel _ => n.rect.ExactExtent
  | .split s => s.DividesExactly n.rect

instance (n : Node) : Decidable n.Exact :=
  match n with
  | ⟨_, r, .panel _⟩ => inferInstanceAs (Decidable r.ExactExtent)
  | ⟨_, r, .split s⟩ => inferInstanceAs (Decidable (s.DividesExactly r))

/-- Nothing that a layout pass computes, or that is computed to find the panel of a point, is
rounded. -/
structure Tree.Exact (t : Tree) : Prop where
  viewport : t.viewport.ExactExtent
  nodes : ∀ n ∈ t.nodes.values, n.Exact

instance (t : Tree) : Decidable t.Exact :=
  decidable_of_iff (t.viewport.ExactExtent ∧ ∀ n ∈ t.nodes.values, n.Exact)
    ⟨fun h => ⟨h.1, h.2⟩, fun h => ⟨h.1, h.2⟩⟩

/-- Whether a point lies in the area of a node. -/
def Tree.covers (t : Tree) (p : Point) (id : NodeId) : Bool := (t.rect? id).any (·.contains p)

/-! ## Layouts -/

namespace Layout

/-- Nothing is rounded when an area is divided among the panels of a layout. -/
def Exact : Layout → Rect → Prop
  | panel _ _, area => area.ExactExtent
  | split _ o r a b, area =>
    let s := Split.mk o r [a.id, b.id]
    s.DividesExactly area ∧ a.Exact (s.childRects area).1 ∧ b.Exact (s.childRects area).2

/-- The names of the panels. -/
def names (l : Layout) : List NodeId := l.panels.map Prod.fst

/-- Whether a point lies in the area that a node gets. -/
def covers (l : Layout) (area : Rect) (p : Point) (j : NodeId) : Bool :=
  (l.areaOf area j).any (·.contains p)

section Covers

variable {l a b : Layout} {area : Rect} {p : Point} {id j : NodeId} {o : Orientation} {r : Float32}

theorem mem_ids_of_mem_names (h : j ∈ l.names) : j ∈ l.ids := l.panels_sublist_ids.subset h

theorem mem_names_split : j ∈ (split id o r a b).names ↔ j ∈ a.names ∨ j ∈ b.names := by
  rw [names, panels, List.map_append, List.mem_append]
  rfl

theorem covers_first (hl : (split id o r a b).ids.Nodup) (hj : j ∈ a.names) :
    (split id o r a b).covers area p j =
      a.covers ((Split.mk o r [a.id, b.id]).childRects area).1 p j := by
  rw [covers, areaOf_first hl area (mem_ids_of_mem_names hj)]
  rfl

theorem covers_second (hl : (split id o r a b).ids.Nodup) (hj : j ∈ b.names) :
    (split id o r a b).covers area p j =
      b.covers ((Split.mk o r [a.id, b.id]).childRects area).2 p j := by
  rw [covers, areaOf_second hl area (mem_ids_of_mem_names hj)]
  rfl

/-- The panels of a layout in which a point lies are those of its two parts. -/
theorem covers_split (hl : (split id o r a b).ids.Nodup) :
    (j ∈ (split id o r a b).names ∧ (split id o r a b).covers area p j) ↔
      (j ∈ a.names ∧ a.covers ((Split.mk o r [a.id, b.id]).childRects area).1 p j) ∨
        (j ∈ b.names ∧ b.covers ((Split.mk o r [a.id, b.id]).childRects area).2 p j) := by
  rw [mem_names_split, or_and_right]
  refine or_congr (and_congr_right fun hj => ?_) (and_congr_right fun hj => ?_)
  · rw [covers_first hl hj]
  · rw [covers_second hl hj]

theorem covers_panel {content : Panel} (h : area.ExactExtent) :
    (panel id content).covers area p id = true ↔ area.Spans p := by
  rw [covers, areaOf, if_pos rfl, Option.any_some, area.contains_iff_spans h]

/-- No panel reaches beyond the area that is divided. -/
theorem spans_of_covers (h : l.Exact area) (hl : l.ids.Nodup)
    (hj : j ∈ l.names ∧ l.covers area p j) : area.Spans p := by
  induction l generalizing area with
  | panel id content =>
      obtain ⟨hj, hcovers⟩ := hj
      obtain rfl : j = id := List.mem_singleton.1 hj
      exact (covers_panel h).1 hcovers
  | split id o r a b iha ihb =>
      obtain ⟨hdivides, ha, hb⟩ := h
      obtain ⟨-, hal, hbl, -⟩ := nodup_split hl
      rw [(Split.spans_childRects hdivides p).1]
      rcases (covers_split hl).1 hj with hj | hj
      · exact .inl (iha ha hal hj)
      · exact .inr (ihb hb hbl hj)

/-- Each point of the area that is divided lies in exactly one panel. -/
theorem existsUnique_covers (h : l.Exact area) (hl : l.ids.Nodup) (hp : area.Spans p) :
    ∃! j, j ∈ l.names ∧ l.covers area p j := by
  induction l generalizing area with
  | panel id content =>
      refine ⟨id, ⟨List.mem_singleton_self id, (covers_panel h).2 hp⟩, ?_⟩
      rintro j ⟨hj, -⟩
      exact List.mem_singleton.1 hj
  | split id o r a b iha ihb =>
      obtain ⟨hdivides, ha, hb⟩ := h
      obtain ⟨-, hal, hbl, -⟩ := nodup_split hl
      obtain ⟨hwhole, hboth⟩ := Split.spans_childRects hdivides p
      -- the part in which the point does not lie has no panel there
      rcases hwhole.1 hp with hfirst | hsecond
      · refine (existsUnique_congr fun j => ?_).2 (iha ha hal hfirst)
        rw [covers_split hl]
        exact or_iff_left fun hj => hboth ⟨hfirst, spans_of_covers hb hbl hj⟩
      · refine (existsUnique_congr fun j => ?_).2 (ihb hb hbl hsecond)
        rw [covers_split hl]
        exact or_iff_right fun hj => hboth ⟨spans_of_covers ha hal hj, hsecond⟩

end Covers

end Layout

/-! ## Trees -/

namespace Tree

open Layout hiding id

section Tiles

variable {t : Tree} {q : Option NodeId} {l : Layout} {area : Rect} {p : Point}

/-- What is computed for the area that a layout gives to a node is exact. -/
private theorem node_exact (hexact : t.Exact)
    (hrect : ∀ j ∈ l.ids, t.rect? j = l.areaOf area j) {n : Link} (hn : t.link? l.id = some n) :
    ∃ node : Node, node.body = n.body ∧ node.rect = area ∧ node.Exact := by
  obtain ⟨node, hnode, -, hbody⟩ := exists_node hn
  have htop := hrect l.id l.id_mem_ids
  rw [rect?, hnode, areaOf_id] at htop
  have hmem : node ∈ t.nodes.values :=
    List.mem_map.2 ⟨(l.id, node), Table.get?_eq_some_iff.1 hnode, rfl⟩
  exact ⟨node, hbody, Option.some.inj htop, hexact.nodes node hmem⟩

private theorem Hangs.exact (h : t.Hangs q l) (hl : l.ids.Nodup) (hexact : t.Exact)
    (hrect : ∀ j ∈ l.ids, t.rect? j = l.areaOf area j) : l.Exact area := by
  induction l generalizing q area with
  | panel id content =>
      obtain ⟨node, hbody, rfl, hpanel⟩ := node_exact hexact hrect h
      rw [Node.Exact, hbody] at hpanel
      exact hpanel
  | split id o r a b iha ihb =>
      obtain ⟨hid, ha, hb⟩ := h
      obtain ⟨-, hal, hbl, -⟩ := nodup_split hl
      obtain ⟨node, hbody, rfl, hsplit⟩ := node_exact hexact hrect hid
      rw [Node.Exact, hbody] at hsplit
      refine ⟨hsplit, iha ha hal fun j hj => ?_, ihb hb hbl fun j hj => ?_⟩
      · rw [← areaOf_first hl _ hj]
        exact hrect j (by simp [ids, hj])
      · rw [← areaOf_second hl _ hj]
        exact hrect j (by simp [ids, hj])

/-- On a tree that a layout pass leaves as it is, the panels tile the viewport. -/
theorem Holds.tiles (h : t.Holds l) (hsame : t.relayout = t) (hexact : t.Exact) (p : Point) :
    (t.viewport.contains p → ∃! j, j ∈ t.panelIds ∧ t.covers p j) ∧
      ∀ j ∈ t.panelIds, t.covers p j → t.viewport.contains p := by
  have hrect : ∀ j ∈ l.ids, t.rect? j = l.areaOf t.viewport j := fun _ => h.rect?_of_relayout hsame
  have hlayout : l.Exact t.viewport := h.hangs.exact h.nodup hexact hrect
  have hids : t.panelIds = l.names := h.panelIds_eq
  have hcovers : ∀ {j}, j ∈ l.names → t.covers p j = l.covers t.viewport p j := by
    intro j hj
    rw [Tree.covers, Layout.covers, hrect j (mem_ids_of_mem_names hj)]
  rw [Rect.contains_iff_spans hexact.viewport, hids]
  constructor
  · intro hp
    obtain ⟨j, ⟨hj, hcover⟩, hunique⟩ := existsUnique_covers hlayout h.nodup hp
    refine ⟨j, ⟨hj, (hcovers hj).trans hcover⟩, ?_⟩
    rintro k ⟨hk, hkcover⟩
    exact hunique k ⟨hk, (hcovers hk).symm.trans hkcover⟩
  · intro j hj hcover
    rw [hcovers hj] at hcover
    exact spans_of_covers hlayout h.nodup ⟨hj, hcover⟩

end Tiles

end Tree

namespace Dock

/-- After every run, if nothing is rounded, each point of the viewport lies in exactly one panel and
a point elsewhere in none. So a panel is found under the points of the viewport and under no others,
and it is the same in whatever order the panels are tried. -/
theorem run_tiles (settings : DragSettings) (ops : List Operation)
    (hexact : ((new settings).run ops).tree.Exact) (p : Point) :
    let t := ((new settings).run ops).tree
    (t.viewport.contains p → ∃! j, j ∈ t.panelIds ∧ t.covers p j) ∧
      (¬ t.viewport.contains p → ∀ j ∈ t.panelIds, ¬ t.covers p j) ∧
      ((t.panelAt p).isSome ↔ t.viewport.contains p) ∧
      ∀ ids : List NodeId, ids.Perm t.panelIds → ids.find? (t.covers p) = t.panelAt p := by
  intro t
  obtain ⟨l, hl⟩ := run_sound settings ops
  have hsame : t.relayout = t := Reachable.relayout_eq ⟨settings, ops, rfl⟩
  obtain ⟨hinside, houtside⟩ := hl.holds.tiles hsame hexact p
  refine ⟨hinside, fun hp j hj hpj => hp (houtside j hj hpj), ?_, ?_⟩
  · show (t.panelIds.find? (t.covers p)).isSome ↔ _
    rw [List.find?_isSome]
    constructor
    · rintro ⟨j, hj, hpj⟩
      exact houtside j hj hpj
    · intro hp
      obtain ⟨j, ⟨hj, hpj⟩, -⟩ := hinside hp
      exact ⟨j, hj, hpj⟩
  · intro ids hids
    refine List.find?_eq_find?_of_perm hids ?_
    rintro i ⟨hi, hpi⟩ j ⟨hj, hpj⟩
    have hi := hids.subset hi
    exact (hinside (houtside i hi hpi)).unique ⟨hi, hpi⟩ ⟨hids.subset hj, hpj⟩

/-- One panel at the left, and two at the right, one above the other. -/
def threePanels : List Operation := [
  .setViewport (.atOrigin 800 600),
  .openTab "A" ⟨⟨1⟩, "p"⟩ true,
  .dockNew "B" ⟨⟨2⟩, "p"⟩ (some ⟨⟨1⟩, .right⟩),
  .dockNew "C" ⟨⟨3⟩, "p"⟩ (some ⟨⟨2⟩, .bottom⟩)]

/-- The point in which the three panels meet lies in one of them only. -/
theorem threePanels_tile :
    let t := ((new .standard).run threePanels).tree
    t.Exact ∧ t.viewport.contains ⟨400, 300⟩ ∧ t.panelIds = [⟨1⟩, ⟨2⟩, ⟨4⟩] ∧
      (∃! j, j ∈ t.panelIds ∧ t.covers ⟨400, 300⟩ j) ∧
      [⟨4⟩, ⟨2⟩, ⟨1⟩].find? (t.covers ⟨400, 300⟩) = t.panelAt ⟨400, 300⟩ := by
  intro t
  have hexact : t.Exact := by decide +kernel
  have hcontains : t.viewport.contains ⟨400, 300⟩ := by decide +kernel
  have hids : t.panelIds = [⟨1⟩, ⟨2⟩, ⟨4⟩] := by decide +kernel
  obtain ⟨hinside, -, -, horder⟩ := run_tiles .standard threePanels hexact ⟨400, 300⟩
  refine ⟨hexact, hcontains, hids, hinside hcontains, horder _ ?_⟩
  rw [show ((new .standard).run threePanels).tree.panelIds = _ from hids]
  exact List.reverse_perm [(⟨1⟩ : NodeId), ⟨2⟩, ⟨4⟩]

end Dock

end Docking
