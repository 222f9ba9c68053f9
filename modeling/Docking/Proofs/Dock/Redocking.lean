import Docking.Proofs.Dock.Frame
import Docking.Proofs.Dock.Moves

/-!
# Windows that are dropped back

A window that is dropped on the dock names itself, and the dock looks for the tab that the window
shows. If one is found, that tab is docked again where the pointer is; the plugin that the window
names is not looked at. The drop finds the panel under the pointer before the tab is put in, and
where there is none, the panel that new tabs go to. All other tabs stay where they are.

## Main definitions

* `Tree.Joins`, `Tree.SplitsOff`: a tab joins a panel, or gets a panel beside it.
* `Dock.DockedAt`: a tab is docked where a drop at a target puts it.

## Main results

* `Sound.findWindow_eq`: a window that one tab only has leads to this tab.
* `Sound.dockFloating_dockedAt`: where a floating tab is docked.
* `Sound.dropWindow_redocks`, `Reachable.externalDrop_redocks`: what a window does that is dropped
  back.
-/

namespace Docking

namespace Tree

/-- A tab joins a panel, where it is last and active. The panels are the same as before, and the
others hold the same as before. -/
def Joins (t u : Tree) (panel : NodeId) (entry : TabEntry) : Prop :=
  ∃ before p after, t.panelList = before ++ (panel, p) :: after ∧
    u.panelList = before ++ (panel, ⟨p.tabs ++ [entry], some entry.id⟩) :: after

/-- A tab gets the new panel `new` for itself, which hangs beside `panel` in a new split. The panels
besides are the same as before and hold the same as before. -/
def SplitsOff (t u : Tree) (panel new : NodeId) (o : Orientation) (first : Bool)
    (entry : TabEntry) : Prop :=
  ∃ before p after split,
    t.panelList = before ++ (panel, p) :: after ∧
    u.panelList = before ++ (if first then [(new, .single entry), (panel, p)]
      else [(panel, p), (new, .single entry)]) ++ after ∧
    t.contains new = false ∧ t.contains split = false ∧
    u.split? split = some (.pair o (if first then new else panel) (if first then panel else new)) ∧
    u.parent? new = some split ∧ u.parent? panel = some split

end Tree

namespace Layout

variable {t u : Tree} {l : Layout} {panel new id : NodeId} {p : Panel} {entry : TabEntry}

/-- What two trees say of a tab that has joined a panel. -/
theorem joins_of_join (ht : t.Holds l) (hu : u.Holds (l.join panel entry true))
    (hp : (panel, p) ∈ l.panels) : t.Joins u panel entry := by
  obtain ⟨before, after, hl, -, hgraft, -⟩ := exists_panels_eq ht.nodup hp
  refine ⟨before, p, after, ht.panelList_eq.trans hl, ?_⟩
  rw [hu.panelList_eq, join, hgraft, panels, List.append_assoc]
  rfl

/-- What two trees say of a tab that has got a panel of its own. -/
theorem splitsOff_of_splitOff {o : Orientation} {first : Bool} (ht : t.Holds l)
    (hu : u.Holds (l.splitOff panel id new o first entry)) (hp : (panel, p) ∈ l.panels)
    (hnew : t.contains new = false) (hid : t.contains id = false) :
    t.SplitsOff u panel new o first entry := by
  obtain ⟨before, after, hl, -, hgraft, -⟩ := exists_panels_eq ht.nodup hp
  obtain ⟨⟨_, hsplit⟩, hnewLink, hpanelLink⟩ := link_splitOff hu ht.nodup hp
  refine ⟨before, p, after, id, ht.panelList_eq.trans hl, ?_, hnew, hid,
    Tree.split?_eq_some_iff.2 ⟨_, hsplit⟩, ?_, ?_⟩
  · rw [hu.panelList_eq, splitOff, hgraft]
    unfold beside
    cases first <;> rfl
  · rw [Tree.parent?_eq, hnewLink]
    rfl
  · rw [Tree.parent?_eq, hpanelLink]
    rfl

end Layout

namespace Dock

open Layout hiding id

/-- The panel that a tab without a target goes to: the active one if it is still there, or else the
first one. -/
def fallbackPanel? (d : Dock) : Option NodeId :=
  (d.activePanel.filter fun panel => (d.tree.panel? panel).isSome).or d.tree.panelIds.head?

/-- After the dock `d` has become `e`, a tab is docked in the panel `place`, where a drop at
`target` puts it: at the end of the target panel, or in a new panel on the side of it that the zone
names. Without a target it is at the end of the panel that a tab without a target goes to. -/
def DockedAt (d e : Dock) (entry : TabEntry) (target : Option DropTarget) (place : NodeId) : Prop :=
  match target with
  | none => d.fallbackPanel? = some place ∧ d.tree.Joins e.tree place entry
  | some t =>
    match t.zone.orientation? with
    | none => place = t.panel ∧ d.tree.Joins e.tree place entry
    | some o => d.tree.SplitsOff e.tree t.panel place o t.zone.newFirst entry

section Redocking

variable {d e : Dock} {l m : Layout} {tab : TabId} {entry : TabEntry} {target : Option DropTarget}
  {place : NodeId} {i : Item} {window : Window} {surface : Surface} {point : Point}

/-! ## What a drop looks for -/

/-- A window that one tab only has leads to this tab. -/
theorem Sound.findWindow_eq (h : d.Sound l) (hitem : d.item? tab = some i)
    (hwindow : i.window? = some window)
    (honly : ∀ t j, d.item? t = some j → j.window? = some window → t = tab) :
    d.findWindow window = some tab := by
  cases hfind : d.findWindow window with
  | none => exact absurd hwindow (window?_ne_of_findWindow hfind hitem)
  | some found =>
      obtain ⟨j, hj, hjwindow⟩ := h.item?_of_findWindow hfind
      rw [honly found j hj hjwindow]

/-- A panel that is hit is in the layout. -/
theorem Sound.mem_panels_of_hitTest (h : d.Sound l) {t : DropTarget} {rect : Rect}
    (hhit : d.hitTest point = some (t, rect)) : ∃ p, (t.panel, p) ∈ l.panels := by
  unfold hitTest at hhit
  split at hhit
  · cases hhit
  · next panel hpanel =>
    split at hhit
    · cases hhit
    · obtain ⟨_, -, hpair⟩ := Option.map_eq_some_iff.1 hhit
      have hmem : panel ∈ d.tree.panelIds := List.mem_of_find?_eq_some hpanel
      rw [h.holds.panelIds_eq] at hmem
      obtain ⟨x, hx, rfl⟩ := List.mem_map.1 hmem
      rw [← (Prod.mk.inj hpair).1]
      exact ⟨x.2, hx⟩

/-- A tab without a target goes to the default panel. -/
theorem Sound.fallbackPanel?_eq (h : d.Sound l) : d.fallbackPanel? = some d.defaultPanel.1 := by
  unfold fallbackPanel? defaultPanel
  cases d.activePanel.filter fun panel => (d.tree.panel? panel).isSome with
  | some panel => rfl
  | none =>
      obtain ⟨p, hp⟩ := l.exists_head?_panels
      rw [h.holds.firstPanel?_eq, h.holds.panelIds_eq, List.head?_map, hp]
      rfl

/-! ## The floating tab -/

/-- A floating tab without a target is docked in the default panel. -/
theorem item?_dockFloating_none (hitem : d.item? tab = some i)
    (hplacement : i.placement = .floating (some window) surface) :
    (d.dockFloating tab none).2.item? tab =
      some { i with placement := .docked d.defaultPanel.1 } := by
  have hdefault : ({ d with items := d.items.erase tab } : Dock).defaultPanel.1 =
      d.defaultPanel.1 := by
    unfold defaultPanel
    cases d.activePanel.filter fun panel => (d.tree.panel? panel).isSome with
    | some panel => rfl
    | none => cases d.tree.firstPanel? <;> rfl
  have hplace : (({ d with items := d.items.erase tab } : Dock).placeEntry ⟨tab, i.title, surface⟩
      none true).1 = d.defaultPanel.1 := hdefault
  simp only [dockFloating, hitem, hplacement]
  rw [hplace]
  exact (Table.get?_insert ..).trans (if_pos rfl)

/-- A floating tab is docked where a drop at the target puts it. -/
theorem Sound.dockFloating_dockedAt (h : d.Sound l) (hitem : d.item? tab = some i)
    (hplacement : i.placement = .floating (some window) surface)
    (htarget : ∀ t ∈ target, ∃ p, (t.panel, p) ∈ l.panels) :
    ∃ place, d.DockedAt (d.dockFloating tab target).2 ⟨tab, i.title, surface⟩ target place ∧
      (d.dockFloating tab target).2.outbox = d.outbox ++ [.mount surface.id place, .redraw] ∧
      ∀ t, (d.dockFloating tab target).2.item? t =
        if tab = t then some { i with placement := .docked place } else d.item? t := by
  obtain ⟨place, m, u, active, hdock, hu, -, hlands⟩ := dockFloating_eq h hitem hplacement target
  have hitems : ∀ t, (d.dockFloating tab target).2.item? t =
      if tab = t then some { i with placement := .docked place } else d.item? t := by
    intro t
    rw [hdock]
    show ((d.items.erase tab).insert tab _).get? t = _
    rw [Table.get?_insert, Table.get?_erase]
    split <;> rfl
  have hfree : ∀ n, d.tree.nextNode ≤ n → d.tree.contains ⟨n⟩ = false := fun n => h.not_contains
  refine ⟨place, ?_, by rw [hdock], hitems⟩
  have htree : (d.dockFloating tab target).2.tree = u := by rw [hdock]
  unfold DockedAt
  rw [htree]
  cases hlands with
  | center hp hzone =>
      simp only [hzone]
      exact ⟨trivial, joins_of_join h.holds hu hp⟩
  | edge hp hzone =>
      simp only [hzone]
      exact splitsOff_of_splitOff h.holds hu hp (hfree _ (Nat.le_refl _)) (hfree _ (Nat.le_succ _))
  | fallback hp hgone =>
      cases target with
      | some t =>
          obtain ⟨q, hq⟩ := htarget t rfl
          exact absurd hq (hgone t rfl q)
      | none =>
          have hplace := hitems tab
          rw [item?_dockFloating_none hitem hplacement, if_pos rfl] at hplace
          obtain rfl : d.defaultPanel.1 = place := by simpa using hplace
          exact ⟨h.fallbackPanel?_eq, joins_of_join h.holds hu hp⟩

/-! ## The drop -/

/-- A window is dropped, and a tab that has it is found. -/
theorem Sound.dropWindow_redocks (h : d.Sound l) (hitem : d.item? tab = some i)
    (hplacement : i.placement = .floating (some window) surface) {payload : Payload}
    (hpayload : payload.window = some window) (point : Point) :
    ∃ place,
      d.DockedAt (d.dropWindow payload (some tab) point) ⟨tab, i.title, surface⟩
        ((d.hitTest point).map Prod.fst) place ∧
      (∀ t, (d.dropWindow payload (some tab) point).item? t =
        if tab = t then some { i with placement := .docked place } else d.item? t) ∧
      (d.dropWindow payload (some tab) point).outbox =
        d.outbox ++ [.mount surface.id place, .redraw, .closeWindow window, .redraw] ∧
      (d.dropWindow payload (some tab) point).gesture =
        if d.externalDrag then none else d.gesture := by
  have htarget : ∀ t ∈ (d.hitTest point).map Prod.fst, ∃ p, (t.panel, p) ∈ l.panels := by
    intro t ht
    obtain ⟨⟨_, rect⟩, hhit, rfl⟩ := Option.map_eq_some_iff.1 ht
    exact h.mem_panels_of_hitTest hhit
  obtain ⟨place, hdocked, houtbox, hitems⟩ := h.dockFloating_dockedAt hitem hplacement htarget
  rw [dropWindow_some d hpayload]
  refine ⟨place, hdocked, hitems, ?_, rfl⟩
  simp only [amid, Dock.emit, houtbox, List.nil_append, List.append_assoc, List.cons_append]

/-- A window that is dropped on the dock is closed, and the tab that it showed is docked where the
pointer is, with the same name, title, plugin and surface. No new tab is asked for, whatever plugin
the window names. All other tabs stay where they are, and so does a tab that is being dragged. -/
theorem Reachable.externalDrop_redocks (h : d.Reachable) (hitem : d.item? tab = some i)
    (hplacement : i.placement = .floating (some window) surface)
    (honly : ∀ t j, d.item? t = some j → j.window? = some window → t = tab) (payload : Payload)
    (hpayload : payload.window = some window) (point : Point) :
    ∃ place,
      d.DockedAt (d.externalDrop payload point) ⟨tab, i.title, surface⟩
        ((d.hitTest point).map Prod.fst) place ∧
      (∀ t, (d.externalDrop payload point).item? t =
        if tab = t then some { i with placement := .docked place } else d.item? t) ∧
      (d.externalDrop payload point).outbox =
        d.outbox ++ [.mount surface.id place, .redraw, .closeWindow window, .redraw] ∧
      (d.externalDrop payload point).gesture = if d.externalDrag then none else d.gesture := by
  obtain ⟨l, hl⟩ := h.sound
  have hwindow : i.window? = some window := by rw [Item.window?, hplacement]
  have hfound : payload.window.bind d.findWindow = some tab := by
    rw [hpayload, Option.bind_some, hl.findWindow_eq hitem hwindow honly]
  rw [externalDrop, hfound]
  exact hl.dropWindow_redocks hitem hplacement hpayload point

/-- Two tabs side by side, and a third one in a window that is dragged over the dock. -/
def windowDragged : Dock :=
  (new .standard).run [
    .setViewport (.atOrigin 80 40),
    .openTab "A" ⟨⟨1⟩, "p"⟩ true,
    .dockNew "B" ⟨⟨2⟩, "p"⟩ (some ⟨⟨1⟩, .right⟩),
    .openTab "C" ⟨⟨3⟩, "q"⟩ true,
    .floatTab ⟨3⟩,
    .attachWindow ⟨3⟩ ⟨"w"⟩,
    .takeCommands,
    .externalOver ⟨5, 20⟩]

/-- The window is dropped at the left edge of the left panel, and its tab gets a panel there. Beside
the dock it goes to the end of the right panel, which is the active one. -/
theorem windowDragged_redocks :
    let entry : TabEntry := ⟨⟨3⟩, "C", ⟨⟨3⟩, "q"⟩⟩
    let dropped := windowDragged.externalDrop ⟨"other", some ⟨"w"⟩⟩
    (∃ place, windowDragged.tree.SplitsOff (dropped ⟨5, 20⟩).tree ⟨1⟩ place .row true entry ∧
      (dropped ⟨5, 20⟩).panelOf? ⟨3⟩ = some place ∧
      (dropped ⟨5, 20⟩).outbox = windowDragged.outbox ++
        [.mount ⟨3⟩ place, .redraw, .closeWindow ⟨"w"⟩, .redraw]) ∧
    windowDragged.tree.Joins (dropped ⟨100, 20⟩).tree ⟨2⟩ entry ∧
    windowDragged.externalDrag ∧ (dropped ⟨100, 20⟩).gesture = none := by
  intro entry dropped
  let i : Item := ⟨⟨3⟩, "C", "q", .floating (some ⟨"w"⟩) ⟨⟨3⟩, "q"⟩⟩
  have hreachable : windowDragged.Reachable := ⟨.standard, _, rfl⟩
  have hitem : windowDragged.item? ⟨3⟩ = some i := by decide +kernel
  have hothers : ∀ t ∈ windowDragged.items.keys, t ≠ ⟨3⟩ →
      (windowDragged.item? t).bind Item.window? ≠ some ⟨"w"⟩ := by decide +kernel
  have honly : ∀ t j, windowDragged.item? t = some j → j.window? = some ⟨"w"⟩ → t = ⟨3⟩ := by
    intro t j hj hw
    by_contra hne
    refine hothers t (Table.mem_keys_iff.2 (Option.isSome_of_mem hj)) hne ?_
    rw [hj]
    exact hw
  have hedge : (windowDragged.hitTest ⟨5, 20⟩).map Prod.fst = some ⟨⟨1⟩, .left⟩ := by decide +kernel
  have hoff : (windowDragged.hitTest ⟨100, 20⟩).map Prod.fst = none := by decide +kernel
  have hactive : windowDragged.fallbackPanel? = some ⟨2⟩ := by decide +kernel
  have hdrag : windowDragged.externalDrag := by decide +kernel
  obtain ⟨place, hplace, hitems, houtbox, -⟩ :=
    Reachable.externalDrop_redocks hreachable hitem rfl honly ⟨"other", some ⟨"w"⟩⟩ rfl
      ⟨5, 20⟩
  obtain ⟨place', hplace', -, -, hgesture⟩ :=
    Reachable.externalDrop_redocks hreachable hitem rfl honly ⟨"other", some ⟨"w"⟩⟩ rfl
      ⟨100, 20⟩
  rw [hedge] at hplace
  rw [hoff] at hplace'
  rw [hdrag] at hgesture
  obtain rfl : ⟨2⟩ = place' := Option.some.inj (hactive.symm.trans hplace'.1)
  refine ⟨⟨place, hplace, ?_, houtbox⟩, hplace'.2, hdrag, hgesture⟩
  exact panelOf?_eq_some_iff.2 ⟨_, hitems ⟨3⟩, rfl⟩

end Redocking

end Dock

end Docking
