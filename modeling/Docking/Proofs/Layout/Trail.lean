import Docking.Proofs.Layout.Basic

/-!
# Places in a layout

A trail leads from a place in a layout up to the topmost node: one crumb for every split on the way,
which keeps the split and its other part. `plug` puts a layout into the place. Edits concern one
panel, so each of them is described by the trail of that panel, and what is off the trail is kept.

## Main results

* `exists_plug`, `exists_trail`: every panel of a layout has a trail.
* `ids_plug`, `panels_plug`: nodes and panels of a plugged trail.
* `graft_plug`, `remove_plug`, `drop_plug`, `pruned_plug`: edits go down the trail.
-/

namespace Docking

/-- One step of the way up: a split, seen from one of its parts. -/
structure Crumb where
  id : NodeId
  orientation : Orientation
  ratio : Float32
  /-- Whether the way comes from the first part. -/
  first : Bool
  /-- The other part. -/
  sibling : Layout

namespace Crumb

/-- The split with a layout in the part that the way comes from. -/
def fill (c : Crumb) (l : Layout) : Layout :=
  if c.first then .split c.id c.orientation c.ratio l c.sibling
  else .split c.id c.orientation c.ratio c.sibling l

/-- The children of the split, one of them being `child`. -/
def children (c : Crumb) (child : NodeId) : List NodeId :=
  if c.first then [child, c.sibling.id] else [c.sibling.id, child]

@[simp] theorem id_fill (c : Crumb) (l : Layout) : (c.fill l).id = c.id := by
  unfold fill
  split <;> rfl

@[simp] theorem isPanel_fill (c : Crumb) (l : Layout) (target : NodeId) :
    (c.fill l).isPanel target = false := by
  unfold fill
  split <;> rfl

@[simp] theorem isOnly_fill (c : Crumb) (l : Layout) (tab : TabId) :
    (c.fill l).isOnly tab = false := by
  unfold fill
  split <;> rfl

end Crumb

namespace Layout

/-- Puts a layout into a place. The first crumb is the one next to the place. -/
def plug : List Crumb → Layout → Layout
  | [], l => l
  | c :: cs, l => plug cs (c.fill l)

/-- The nodes off the place: the splits of a trail and all that their other parts hold. -/
def trailIds : List Crumb → List NodeId
  | [] => []
  | c :: cs => c.id :: (c.sibling.ids ++ trailIds cs)

/-- The panels before a place. -/
def before : List Crumb → List (NodeId × Panel)
  | [] => []
  | c :: cs => before cs ++ if c.first then [] else c.sibling.panels

/-- The panels behind a place. -/
def after : List Crumb → List (NodeId × Panel)
  | [] => []
  | c :: cs => (if c.first then c.sibling.panels else []) ++ after cs

/-- The split right above a place. -/
def above (cs : List Crumb) : Option NodeId := cs.head?.map Crumb.id

@[simp] theorem above_nil : above [] = none := rfl

@[simp] theorem above_cons (c : Crumb) (cs : List Crumb) : above (c :: cs) = some c.id := rfl

theorem plug_append (cs ds : List Crumb) (l : Layout) :
    plug (cs ++ ds) l = plug ds (plug cs l) := by
  induction cs generalizing l with
  | nil => rfl
  | cons c cs ih => rw [List.cons_append, plug, plug, ih]

/-- Every panel of a layout has a trail. -/
theorem exists_plug {l : Layout} {id : NodeId} {p : Panel} (h : (id, p) ∈ l.panels) :
    ∃ cs, l = plug cs (panel id p) := by
  induction l with
  | panel i q =>
      rw [panels, List.mem_singleton, Prod.mk.injEq] at h
      exact ⟨[], by rw [h.1, h.2]; rfl⟩
  | split i o r a b iha ihb =>
      rw [panels, List.mem_append] at h
      rcases h with h | h
      · obtain ⟨cs, hcs⟩ := iha h
        refine ⟨cs ++ [⟨i, o, r, true, b⟩], ?_⟩
        rw [plug_append, ← hcs]
        rfl
      · obtain ⟨cs, hcs⟩ := ihb h
        refine ⟨cs ++ [⟨i, o, r, false, a⟩], ?_⟩
        rw [plug_append, ← hcs]
        rfl

/-! ## Nodes and panels around a place -/

theorem ids_fill (c : Crumb) (l : Layout) :
    (c.fill l).ids.Perm (c.id :: (c.sibling.ids ++ l.ids)) := by
  unfold Crumb.fill
  split
  · exact (List.perm_append_comm).cons _
  · exact List.Perm.refl _

theorem ids_plug (cs : List Crumb) (l : Layout) :
    (plug cs l).ids.Perm (trailIds cs ++ l.ids) := by
  induction cs generalizing l with
  | nil => exact List.Perm.refl _
  | cons c cs ih =>
      have hfill : (trailIds cs ++ (c.fill l).ids).Perm
          (trailIds cs ++ c.id :: (c.sibling.ids ++ l.ids)) :=
        (ids_fill c l).append_left _
      have hmiddle : (trailIds cs ++ c.id :: (c.sibling.ids ++ l.ids)).Perm
          (c.id :: (trailIds cs ++ (c.sibling.ids ++ l.ids))) := List.perm_middle
      refine ((ih (c.fill l)).trans (hfill.trans hmiddle)).trans ?_
      rw [trailIds, List.cons_append]
      refine List.Perm.cons _ ?_
      rw [← List.append_assoc]
      exact List.perm_append_comm.append_right _

theorem mem_ids_plug {cs : List Crumb} {l : Layout} {j : NodeId} :
    j ∈ (plug cs l).ids ↔ j ∈ trailIds cs ∨ j ∈ l.ids := by
  rw [(ids_plug cs l).mem_iff, List.mem_append]

/-- Every panel has a trail, on which its name does not occur. -/
theorem exists_trail {l : Layout} (h : l.ids.Nodup) {id : NodeId} {p : Panel}
    (hp : (id, p) ∈ l.panels) : ∃ cs, l = plug cs (panel id p) ∧ id ∉ trailIds cs := by
  obtain ⟨cs, rfl⟩ := exists_plug hp
  have hids := (ids_plug cs (panel id p)).nodup_iff.1 h
  have hdisjoint := (List.nodup_append.1 hids).2.2
  exact ⟨cs, rfl, fun hj => hdisjoint id hj id (by simp [ids]) rfl⟩

theorem panels_fill (c : Crumb) (l : Layout) :
    (c.fill l).panels = (if c.first then [] else c.sibling.panels) ++ l.panels ++
      if c.first then c.sibling.panels else [] := by
  unfold Crumb.fill
  split <;> simp [panels]

theorem panels_plug (cs : List Crumb) (l : Layout) :
    (plug cs l).panels = before cs ++ l.panels ++ after cs := by
  induction cs generalizing l with
  | nil => simp [plug, before, after]
  | cons c cs ih =>
      rw [plug, ih, panels_fill, before, after]
      simp only [List.append_assoc]

theorem id_plug_cons (c : Crumb) (cs : List Crumb) (l : Layout) :
    (plug (c :: cs) l).id ∈ trailIds (c :: cs) := by
  induction cs generalizing c l with
  | nil => simp [plug, trailIds]
  | cons d ds ih =>
      have := ih d (c.fill l)
      simp only [trailIds, List.mem_cons, List.mem_append] at this ⊢
      exact .inr (.inr this)

theorem mem_trailIds_of_mem {c : Crumb} {cs : List Crumb} (hc : c ∈ cs) {j : NodeId}
    (h : j ∈ c.sibling.ids) : j ∈ trailIds cs := by
  induction cs with
  | nil => cases hc
  | cons d ds ih =>
      rw [trailIds, List.mem_cons, List.mem_append]
      rcases List.mem_cons.1 hc with rfl | hc
      · exact .inr (.inl h)
      · exact .inr (.inr (ih hc))

theorem mem_panels_plug_of_mem {c : Crumb} {cs : List Crumb} (hc : c ∈ cs) {x : NodeId × Panel}
    (h : x ∈ c.sibling.panels) (l : Layout) : x ∈ (plug cs l).panels := by
  induction cs generalizing l with
  | nil => cases hc
  | cons d ds ih =>
      rcases List.mem_cons.1 hc with rfl | hc
      · rw [plug, panels_plug, panels_fill]
        simp only [List.mem_append]
        by_cases hfirst : c.first
        · simp [hfirst, h]
        · simp [hfirst, h]
      · exact ih hc (d.fill l)

theorem above_mem_trailIds {cs : List Crumb} {p : NodeId} (h : above cs = some p) :
    p ∈ trailIds cs := by
  cases cs with
  | nil => simp at h
  | cons c cs =>
      rw [above_cons, Option.some.injEq] at h
      simp [trailIds, h]

/-! ## Edits at a place -/

theorem graft_fill {c : Crumb} {target : NodeId} (h : target ∉ c.sibling.ids)
    (f : Panel → Layout) (l : Layout) :
    (c.fill l).graft target f = c.fill (l.graft target f) := by
  unfold Crumb.fill
  split <;> rw [graft, graft_of_notMem h]

theorem graft_plug {cs : List Crumb} {target : NodeId} (h : target ∉ trailIds cs)
    (f : Panel → Layout) (l : Layout) :
    (plug cs l).graft target f = plug cs (l.graft target f) := by
  induction cs generalizing l with
  | nil => rfl
  | cons c cs ih =>
      simp only [trailIds, List.mem_cons, List.mem_append, not_or] at h
      rw [plug, ih h.2.2, graft_fill h.2.1, plug]

theorem graft_plug_panel {cs : List Crumb} {target : NodeId} (h : target ∉ trailIds cs)
    (f : Panel → Layout) (p : Panel) :
    (plug cs (panel target p)).graft target f = plug cs (f p) := by
  rw [graft_plug h, graft, if_pos rfl]

theorem remove_fill {c : Crumb} {target : NodeId} (h : target ∉ c.sibling.ids) {l : Layout}
    (hl : l.isPanel target = false) :
    (c.fill l).remove target = c.fill (l.remove target) := by
  unfold Crumb.fill
  split <;> simp [remove, isPanel_of_notMem h, hl, remove_of_notMem h]

/-- What the trail keeps of a split is kept when something below the split is removed. -/
theorem remove_plug {cs : List Crumb} {target : NodeId} (h : target ∉ trailIds cs) {l : Layout}
    (hl : l.isPanel target = false) :
    (plug cs l).remove target = plug cs (l.remove target) := by
  induction cs generalizing l with
  | nil => rfl
  | cons c cs ih =>
      simp only [trailIds, List.mem_cons, List.mem_append, not_or] at h
      rw [plug, ih h.2.2 (c.isPanel_fill l target), remove_fill h.2.1 hl, plug]

/-- The other part takes the place of the split above a removed panel. -/
theorem remove_plug_panel {c : Crumb} {cs : List Crumb} {target : NodeId}
    (h : target ∉ trailIds (c :: cs)) (p : Panel) :
    (plug (c :: cs) (panel target p)).remove target = plug cs c.sibling := by
  simp only [trailIds, List.mem_cons, List.mem_append, not_or] at h
  have hself : (panel target p).isPanel target := by simp [isPanel]
  have hfill : (c.fill (panel target p)).remove target = c.sibling := by
    unfold Crumb.fill
    split <;> simp [remove, hself, isPanel_of_notMem h.2.1]
  rw [plug, remove_plug h.2.2 (c.isPanel_fill _ target), hfill]

/-- The contents of a panel that is removed do not matter. -/
theorem remove_graft {l : Layout} (h : l.ids.Nodup) {target : NodeId} {p : Panel}
    (hp : (target, p) ∈ l.panels) (hid : target ≠ l.id) (q : Panel) :
    (l.graft target fun _ => panel target q).remove target = l.remove target := by
  obtain ⟨cs, rfl, htarget⟩ := exists_trail h hp
  cases cs with
  | nil => exact absurd rfl hid
  | cons c cs => rw [graft_plug_panel htarget, remove_plug_panel htarget, remove_plug_panel htarget]

/-- A tab is nowhere on a trail, also not as an active one. -/
structure Misses (cs : List Crumb) (tab : TabId) : Prop where
  absent : ∀ c ∈ cs, tab ∉ c.sibling.tabIds
  inactive : ∀ c ∈ cs, ∀ x ∈ c.sibling.panels, x.2.active ≠ some tab

theorem Misses.tail {c : Crumb} {cs : List Crumb} {tab : TabId} (h : Misses (c :: cs) tab) :
    Misses cs tab where
  absent := fun d hd => h.absent d (List.mem_cons_of_mem _ hd)
  inactive := fun d hd => h.inactive d (List.mem_cons_of_mem _ hd)

theorem drop_sibling {c : Crumb} {cs : List Crumb} {tab : TabId} (h : Misses (c :: cs) tab) :
    c.sibling.isOnly tab = false ∧ c.sibling.drop tab = c.sibling :=
  have hmem : c ∈ c :: cs := List.mem_cons_self ..
  ⟨isOnly_of_notMem (h.absent c hmem), drop_of_notMem (h.absent c hmem) (h.inactive c hmem)⟩

theorem drop_plug {cs : List Crumb} {tab : TabId} (h : Misses cs tab) {l : Layout}
    (hl : l.isOnly tab = false) : (plug cs l).drop tab = plug cs (l.drop tab) := by
  induction cs generalizing l with
  | nil => rfl
  | cons c cs ih =>
      obtain ⟨honly, hdrop⟩ := drop_sibling h
      have hfill : (c.fill l).drop tab = c.fill (l.drop tab) := by
        unfold Crumb.fill
        split <;> simp [drop, honly, hdrop, hl]
      rw [plug, ih h.tail (c.isOnly_fill l tab), hfill, plug]

theorem drop_plug_only {c : Crumb} {cs : List Crumb} {tab : TabId} (h : Misses (c :: cs) tab)
    {l : Layout} (hl : l.isOnly tab) : (plug (c :: cs) l).drop tab = plug cs c.sibling := by
  obtain ⟨honly, -⟩ := drop_sibling h
  have hfill : (c.fill l).drop tab = c.sibling := by
    unfold Crumb.fill
    split <;> simp [drop, honly, hl]
  rw [plug, drop_plug h.tail (c.isOnly_fill l tab), hfill]

theorem pruned_plug {cs : List Crumb} {l m : Layout} (h : l.pruned = m.pruned) :
    (plug cs l).pruned = (plug cs m).pruned := by
  induction cs generalizing l m with
  | nil => exact h
  | cons c cs ih =>
      have hfill : (c.fill l).pruned = (c.fill m).pruned := by
        unfold Crumb.fill
        split <;> simp [pruned, h]
      exact ih hfill

/-- Removing an empty panel leaves the pruned layout as it is, if there is no empty panel before it
in its own split: where all panels are empty, the last one has to stay. -/
theorem pruned_remove {c : Crumb} {cs : List Crumb} {target : NodeId} {p : Panel}
    (hp : p.isEmpty) (hfirst : c.first = false → ∀ x ∈ c.sibling.panels, x.2.isEmpty = false) :
    (plug cs c.sibling).pruned = (plug (c :: cs) (panel target p)).pruned := by
  refine pruned_plug (m := c.fill (panel target p)) ?_
  have hblank : (panel target p).isBlank := hp
  unfold Crumb.fill
  split
  · simp [pruned, hblank]
  · next h =>
    have hne := hfirst (by simpa using h)
    have hsibling : c.sibling.pruned.isBlank = false := by
      rcases c.sibling.panels_pruned with ⟨hb, -⟩ | ⟨-, -, he⟩
      · exact hb
      · obtain ⟨x, hx⟩ := List.exists_mem_of_ne_nil _ c.sibling.panels_ne_nil
        exact absurd (he x hx) (by simp [hne x hx])
    simp [pruned, hblank, hsibling]

end Layout

end Docking
