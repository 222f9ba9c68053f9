import Docking.Proofs.Dock.Gestures
import Docking.Proofs.Dock.Steps

/-!
# Focus

The tab that was shown last is in front: the panel in which it is docked is the active one, and it
is the active tab of that panel. So it is after every operation that shows a tab, in whichever of
the three ways the tab has landed, and also if the active panel was gone before. A tab that is
opened behind the others leaves all this as it is, unless it is the first one of its panel.

## Main definitions

* `Dock.Focuses`: a tab is in front.
* `Dock.Reveals`: what an operation shows.

## Main results

* `placeEntry_fronts`: a tab that is put into the layout is in front there.
* `Reveals.focuses`: what an operation shows is in front afterwards.
* `openTab_behind`: a tab that is opened behind others changes no focus.
-/

namespace Docking

namespace Dock

open Layout hiding id

/-- A panel is the active one, and a tab is the active one in it. -/
def Fronts (d : Dock) (panel : NodeId) (tab : TabId) : Prop :=
  d.activePanel = some panel ∧ ∃ p, d.tree.panel? panel = some p ∧ p.active = some tab

/-- The panel in which a tab is docked is the active one, and the tab is the active one in it. -/
def Focuses (d : Dock) (tab : TabId) : Prop :=
  ∃ panel, d.panelOf? tab = some panel ∧ d.Fronts panel tab

/-- The operations that show a tab, each with the tab that it shows. -/
inductive Reveals (d : Dock) : Operation → TabId → Prop where
  | opened (title : String) (surface : Surface) :
      Reveals d (.openTab title surface true) ⟨d.nextTab⟩
  | docked (title : String) (surface : Surface) (target : Option DropTarget) :
      Reveals d (.dockNew title surface target) ⟨d.nextTab⟩
  | moved {tab : TabId} {target : DropTarget} (h : (d.moveTab tab target).1 = true) :
      Reveals d (.moveTab tab target) tab
  | landed {tab : TabId} (h : (d.item? tab).any Item.isFloating) (target : Option DropTarget) :
      Reveals d (.dockFloating tab target) tab
  | activated {tab : TabId} (h : (d.panelOf? tab).isSome) : Reveals d (.activateTab tab) tab
  /-- The pointer is released after a tab was pressed and not dragged. -/
  | clicked {tab : TabId} {g : Gesture} (hgesture : d.gesture = some g)
      (hheld : g.kind = .tab ∧ g.tab = some tab) (hstill : g.dragging = false)
      (h : (d.panelOf? tab).isSome) : Reveals d .pointerUp tab
  /-- A tab that was dragged to a target is dropped there. -/
  | dropped {tab : TabId} {g : Gesture} {target : DropTarget} (hgesture : d.gesture = some g)
      (hheld : g.kind = .tab ∧ g.tab = some tab) (hdrag : g.dragging = true)
      (htarget : g.target = some target) (h : (d.dropGesture.moveTab tab target).1 = true) :
      Reveals d .pointerUp tab
  /-- The window of a floating tab is dropped. -/
  | redocked {tab : TabId} {payload : Payload} {window : Window}
      (hpayload : payload.window = some window) (h : d.findWindow window = some tab)
      (point : Point) : Reveals d (.externalDrop payload point) tab

section Focus

variable {d e : Dock} {l : Layout} {tab : TabId} {panel : NodeId} {p : Panel} {entry : TabEntry}

/-- Only the tree and the active panel matter, and of the tree not the areas. -/
theorem Fronts.congr (h : d.Fronts panel tab) (htree : e.tree.link? = d.tree.link?)
    (hactive : e.activePanel = d.activePanel) : e.Fronts panel tab := by
  rw [Fronts, Tree.panel?_eq, htree, hactive, ← Tree.panel?_eq]
  exact h

theorem Fronts.finish (h : d.Fronts panel tab) : d.finish.Fronts panel tab :=
  h.congr (funext d.tree.link?_relayout) rfl

theorem Focuses.congr (h : d.Focuses tab) (hitem : e.item? = d.item?) (htree : e.tree = d.tree)
    (hactive : e.activePanel = d.activePanel) : e.Focuses tab := by
  obtain ⟨panel, hpanel, hfront⟩ := h
  refine ⟨panel, ?_, hfront.congr (by rw [htree]) hactive⟩
  rw [panelOf?, hitem]
  exact hpanel

/-! ## Tabs that land -/

theorem addToPanel_fronts (h : d.tree.Holds l) (hp : (panel, p) ∈ l.panels)
    (hnew : entry.id ∉ l.tabIds) : (d.addToPanel panel entry true).Fronts panel entry.id := by
  have hset := Tree.setPanel_holds h hp (p.push entry true)
  have hmem : (panel, p.push entry true) ∈ (l.touch panel (p.push entry true)).panels :=
    (mem_panels_touch h.nodup hp).2 (.inr rfl)
  rw [addToPanel_of_mem h hp hnew]
  exact ⟨if_pos rfl, _, hset.panel?_of_mem hmem, rfl⟩

theorem splitWith_fronts (h : d.tree.Holds l) (hp : (panel, p) ∈ l.panels) (entry : TabEntry)
    (o : Orientation) (first : Bool) :
    (d.splitWith entry panel o first).2.Fronts (d.splitWith entry panel o first).1 entry.id := by
  obtain ⟨u, hsplit, hu⟩ := splitWith_eq h hp entry o first
  rw [hsplit]
  exact ⟨rfl, _, hu.panel?_of_mem ((mem_panels_splitOff h.nodup hp).2 (.inr (.inl rfl))), rfl⟩

/-- A tab that is put into the layout to be shown is in front where it lands, be it at its target or
in the default panel. -/
theorem placeEntry_fronts (h : d.tree.Holds l) (hnew : entry.id ∉ l.tabIds)
    (target : Option DropTarget) :
    (d.placeEntry entry target true).2.Fronts (d.placeEntry entry target true).1 entry.id := by
  suffices hput : (d.putEntry entry target true).2.Fronts (d.putEntry entry target true).1 entry.id
    from hput.congr rfl rfl
  rcases putEntry_cases h entry target true with
    ⟨panel, p, o, first, hp, hput⟩ | ⟨panel, p, shown, hp, hshown, hput⟩
  · rw [hput]
    exact splitWith_fronts h hp entry o first
  · rw [hput, hshown rfl]
    exact addToPanel_fronts h hp hnew

/-! ## Operations that show a tab -/

theorem register_focuses (h : d.Sound l) (title : String) (surface : Surface)
    (target : Option DropTarget) :
    (d.register title surface target true).2.Focuses ⟨d.nextTab⟩ := by
  let counted : Dock := { d with nextTab := d.nextTab + 1 }
  let entry : TabEntry := ⟨⟨d.nextTab⟩, title, surface⟩
  have hnew : entry.id ∉ l.tabIds := h.next_notMem
  have hplaced := placeEntry_fronts (d := counted) h.holds hnew target
  have hfront : (d.register title surface target true).2.Fronts
      (counted.placeEntry entry target true).1 ⟨d.nextTab⟩ := Fronts.finish (hplaced.congr rfl rfl)
  refine ⟨_, ?_, hfront⟩
  show (Table.get? (Table.insert ..) _).bind Item.panel? = _
  rw [Table.get?_insert, if_pos rfl]
  rfl

/-- A tab that has been moved has left its panel and is put into what is left of the layout. -/
theorem moveTab_focuses (h : d.Sound l) {target : DropTarget}
    (hmoved : (d.moveTab tab target).1 = true) : (d.moveTab tab target).2.Focuses tab := by
  unfold moveTab at hmoved ⊢
  cases hsource : d.panelOf? tab with
  | none => simp [hsource] at hmoved
  | some source =>
      cases htarget : d.tree.panel? target.panel with
      | none => simp [hsource, htarget] at hmoved
      | some q =>
          cases hself : dropsOnItself source target q with
          | true => simp [hsource, htarget, hself] at hmoved
          | false =>
              obtain ⟨p, hp, htab⟩ := h.exists_panel hsource
              obtain ⟨i, hitem, -⟩ := panelOf?_eq_some_iff.1 hsource
              obtain ⟨entry, u, hdetach, -, rfl, hholds, -⟩ := detach_eq h.holds h.tidy hp htab
              let rest : Dock :=
                { d with tree := u, outbox := d.outbox ++ [.unmount entry.surface.id] }
              have hnew := notMem_tabIds_vacate h.tidy h.nodup hp htab
              have hplaced := placeEntry_fronts (d := rest) hholds hnew (some target)
              simp only [hself, hdetach, Bool.false_eq_true, if_false]
              refine ⟨(rest.placeEntry entry (some target) true).1, ?_,
                Fronts.finish (hplaced.congr rfl rfl)⟩
              obtain ⟨place, m, v, active, hplace, -⟩ :=
                placeEntry_eq (d := rest) hholds entry hnew (some target) true
              rw [hplace]
              show ((rest.setPlacement entry.id (.docked place)).item? entry.id).bind _ = _
              rw [item?_setPlacement (d := rest) hitem, if_pos rfl]
              rfl

theorem dockFloating_focuses (h : d.Sound l) (hfloating : (d.item? tab).any Item.isFloating)
    (target : Option DropTarget) : (d.dockFloating tab target).2.Focuses tab := by
  obtain ⟨i, hitem, hi⟩ := (Option.any_eq_true ..).1 hfloating
  obtain ⟨window, surface, hplacement⟩ := Item.isFloating_iff.1 hi
  let rest : Dock := { d with items := d.items.erase tab }
  let entry : TabEntry := ⟨tab, i.title, surface⟩
  have hnew : entry.id ∉ l.tabIds := h.notMem_tabIds (panelOf?_of_floating hitem hplacement)
  have hplaced := placeEntry_fronts (d := rest) h.holds hnew target
  simp only [dockFloating, hitem, hplacement]
  refine ⟨(rest.placeEntry entry target true).1, ?_, Fronts.finish (hplaced.congr rfl rfl)⟩
  show (Table.get? (Table.insert ..) _).bind Item.panel? = _
  rw [Table.get?_insert, if_pos rfl]
  rfl

theorem activateTab_focuses (h : d.Sound l) (hdocked : (d.panelOf? tab).isSome) :
    (d.activateTab tab).Focuses tab := by
  obtain ⟨panel, hpanel⟩ := Option.isSome_iff_exists.1 hdocked
  obtain ⟨i, hitem, hplacement⟩ := panelOf?_eq_some_iff.1 hpanel
  obtain ⟨p, hp, htab⟩ := h.exists_panel hpanel
  have hshown : d.activateTab tab = { d with
      tree := d.tree.setPanel panel { p with active := some tab }
      activePanel := some panel }.emit .redraw := by
    simp only [activateTab, hitem, hplacement, h.holds.panel?_of_mem hp, Panel.activate_eq htab]
  rw [hshown]
  refine ⟨panel, hpanel, rfl, { p with active := some tab }, ?_, rfl⟩
  show (d.tree.setPanel panel _).panel? panel = _
  rw [Tree.panel?_setPanel, if_pos rfl, h.holds.panel?_of_mem hp]
  rfl

/-- The window of a floating tab is dropped, whichever of its tabs is found. -/
theorem dropWindow_focuses (h : d.Sound l) {payload : Payload}
    (hfinds : d.Finds payload (some tab)) (point : Point) :
    (d.dropWindow payload (some tab) point).Focuses tab := by
  obtain ⟨window, i, hwindow, hitem, hi⟩ := hfinds
  have hfloating : (d.item? tab).any Item.isFloating := by
    rw [hitem]
    exact Item.isFloating_of_window? hi
  rw [dropWindow_some d hwindow]
  exact (dockFloating_focuses h hfloating _).congr rfl rfl rfl

/-- What an operation shows is in front afterwards. -/
theorem Reveals.focuses (h : d.Sound l) {op : Operation} (k : d.Reveals op tab) :
    (d.apply op).Focuses tab := by
  cases k with
  | opened title surface => exact register_focuses h title surface none
  | docked title surface target => exact register_focuses h title surface target
  | moved hmoved => exact moveTab_focuses h hmoved
  | landed hfloating target => exact dockFloating_focuses h hfloating target
  | activated hdocked => exact activateTab_focuses h hdocked
  | clicked hgesture hheld hstill hdocked =>
      have hup : d.pointerUp = d.dropGesture.activateTab tab := by
        simp only [pointerUp, hgesture, hheld, hstill, Bool.false_eq_true, if_false]
      show d.pointerUp.Focuses tab
      rw [hup]
      exact activateTab_focuses (h.congr rfl rfl rfl) hdocked
  | @dropped tab g target hgesture hheld hdrag htarget hmoved =>
      have hup : d.pointerUp = (d.dropGesture.moveTab tab target).2.emit .redraw := by
        simp only [pointerUp, hgesture, hheld, hdrag, htarget, if_true]
      have hrest : d.dropGesture.Sound l := h.congr rfl rfl rfl
      show d.pointerUp.Focuses tab
      rw [hup]
      exact (moveTab_focuses hrest hmoved).congr rfl rfl rfl
  | @redocked tab payload window hpayload hfind point =>
      have hfound : payload.window.bind d.findWindow = some tab := by
        rw [hpayload, Option.bind_some, hfind]
      have hfinds : d.Finds payload (some tab) := hfound ▸ h.finds payload
      show (d.dropWindow payload (payload.window.bind d.findWindow) point).Focuses tab
      rw [hfound]
      exact dropWindow_focuses h hfinds point

/-! ## Clicks -/

private theorem click_focuses_of_idle (h : d.Sound l) (hidle : d.gesture = none)
    (hdocked : (d.panelOf? tab).isSome) {origin : Point} {moves : List Point}
    (hstrays : d.strays origin moves = false) :
    (moves.foldl pointerMove (d.pointerDown tab origin)).pointerUp.Focuses tab := by
  have hpressed := pressed_moves hidle hdocked origin moves
  obtain ⟨g, hgesture, hheld, hstill, -⟩ := hpressed.gesture
  rw [hstrays] at hstill
  generalize moves.foldl pointerMove (d.pointerDown tab origin) = held at *
  have hsound : held.Sound l := by
    have hcalm : held.calm.Sound l := hpressed.calm ▸ h.congr rfl rfl rfl
    exact hcalm.congr rfl rfl rfl
  have hdocked : (held.calm.panelOf? tab).isSome := hpressed.calm ▸ hdocked
  exact (Reveals.clicked hgesture hheld hstill hdocked).focuses hsound

/-- A tab is pressed and released, and the pointer has not strayed meanwhile. A window that was
dragged over the dock has left then. -/
theorem click_focuses (h : d.Sound l) (hidle : d.gesture.all Gesture.isExternal)
    (hdocked : (d.panelOf? tab).isSome) {origin : Point} {moves : List Point}
    (hstrays : d.strays origin moves = false) :
    (moves.foldl pointerMove (d.pointerDown tab origin)).pointerUp.Focuses tab := by
  cases hgesture : d.gesture with
  | none => exact click_focuses_of_idle h hgesture hdocked hstrays
  | some g =>
      rw [hgesture, Option.all_some] at hidle
      have hdown : d.pointerDown tab origin =
          (d.dropGesture.emit .redraw).pointerDown tab origin := by
        simp only [pointerDown, hgesture, hidle, if_true]
        rfl
      have hrest : (d.dropGesture.emit .redraw).Sound l := h.congr rfl rfl rfl
      rw [hdown]
      exact click_focuses_of_idle hrest rfl hdocked hstrays

/-! ## Tabs that are opened behind others -/

/-- A tab that joins the tabs of a panel without being shown changes no focus. -/
theorem addToPanel_behind (h : d.tree.Holds l) (ht : l.Tidy) (hp : (panel, p) ∈ l.panels)
    (hfull : p.tabs ≠ []) (hnew : entry.id ∉ l.tabIds) :
    d.addToPanel panel entry false =
        { d with tree := d.tree.setPanel panel (p.push entry false) } ∧
      (p.push entry false).active = p.active := by
  obtain ⟨hmem, hnone⟩ := Panel.fits_iff.1 (ht.fits _ hp)
  obtain ⟨t, hactive⟩ : ∃ t, p.active = some t :=
    Option.ne_none_iff_exists'.1 fun hactive => hfull (hnone hactive)
  have hpush : (p.push entry false).active = p.active := by
    rw [Panel.push, hactive]
    rfl
  have hother : (p.push entry false).active ≠ some entry.id := by
    rw [hpush]
    exact fun hshown => hnew (mem_tabIds.2 ⟨panel, p, hp, hmem _ hshown⟩)
  rw [addToPanel_of_mem h hp hnew, if_neg hother]
  exact ⟨rfl, hpush⟩

/-- A tab that is opened behind those of the default panel changes neither the active panel, which
may be gone, nor the active tab of any panel. -/
theorem openTab_behind (h : d.Sound l) (hp : d.tree.panel? d.defaultPanel.1 = some p)
    (hfull : p.tabs ≠ []) (title : String) (surface : Surface) :
    let e := (d.openTab title surface false).2
    e.activePanel = d.activePanel ∧
      ∀ id, (e.tree.panel? id).map Panel.active = (d.tree.panel? id).map Panel.active := by
  intro e
  let counted : Dock := { d with nextTab := d.nextTab + 1 }
  let entry : TabEntry := ⟨⟨d.nextTab⟩, title, surface⟩
  obtain ⟨panel, q, hdefault, hq⟩ := defaultPanel_eq (d := counted) h.holds
  have hnamed : d.defaultPanel.1 = panel := by
    rw [← fst_defaultPanel_congr (d := d) (e := counted) rfl rfl, hdefault]
  rw [hnamed, h.holds.panel?_of_mem hq] at hp
  obtain rfl : q = p := Option.some.inj hp
  have hnew : entry.id ∉ l.tabIds := h.next_notMem
  obtain ⟨hadd, hactive⟩ := addToPanel_behind (d := counted) h.holds h.tidy hq hfull hnew
  have hfocus : e.activePanel = d.activePanel := by
    show (counted.placeEntry entry none false).2.activePanel = _
    rw [placeEntry_none hdefault, hadd]
    rfl
  have htree : e.tree = (d.tree.setPanel panel (q.push entry false)).relayout := by
    show (counted.placeEntry entry none false).2.tree.relayout = _
    rw [placeEntry_none hdefault, hadd]
    rfl
  refine ⟨hfocus, fun id => ?_⟩
  rw [htree, Tree.panel?_eq, Tree.link?_relayout, ← Tree.panel?_eq, Tree.panel?_setPanel]
  split
  · next hid =>
    subst hid
    rw [h.holds.panel?_of_mem hq]
    exact congrArg some hactive
  · rfl

/-- After every run: what an operation shows is in front then; a click shows a docked tab, wherever
the pointer was; and a tab that is opened behind those of the default panel changes neither the
active panel nor the active tab of any panel. -/
theorem Reachable.focus_follows (h : d.Reachable) :
    (∀ op tab, d.Reveals op tab → (d.apply op).Focuses tab) ∧
      (∀ tab origin moves, d.gesture.all Gesture.isExternal → (d.panelOf? tab).isSome →
        d.strays origin moves = false →
          (moves.foldl pointerMove (d.pointerDown tab origin)).pointerUp.Focuses tab) ∧
      ∀ title surface p, d.tree.panel? d.defaultPanel.1 = some p → p.tabs ≠ [] →
        let e := (d.openTab title surface false).2
        e.activePanel = d.activePanel ∧
          ∀ id, (e.tree.panel? id).map Panel.active = (d.tree.panel? id).map Panel.active := by
  obtain ⟨l, hl⟩ := h.sound
  exact ⟨fun op tab k => k.focuses hl, fun tab origin moves hidle hdocked hstrays =>
      click_focuses hl hidle hdocked hstrays,
    fun title surface p hp hfull => openTab_behind hl hp hfull title surface⟩

/-- Two tabs side by side, of which the second one is closed: its panel is gone, and still the
active one. -/
def leftBehind : Dock :=
  (new .standard).run [
    .setViewport (.atOrigin 100 100),
    .openTab "A" ⟨⟨1⟩, "p"⟩ true,
    .dockNew "B" ⟨⟨2⟩, "p"⟩ (some ⟨⟨1⟩, .right⟩),
    .closeTab ⟨2⟩]

/-- A third tab is in front if it is to be shown, and so is the first one when it is clicked. If the
third tab is opened behind, the active panel is still the one that is gone. -/
theorem leftBehind_focus :
    leftBehind.activePanel = some ⟨2⟩ ∧ leftBehind.tree.panel? ⟨2⟩ = none ∧
      (leftBehind.apply (.openTab "C" ⟨⟨3⟩, "p"⟩ true)).Focuses ⟨3⟩ ∧
      ([⟨2, 1⟩].foldl pointerMove (leftBehind.pointerDown ⟨1⟩ ⟨1, 1⟩)).pointerUp.Focuses ⟨1⟩ ∧
      (leftBehind.openTab "C" ⟨⟨3⟩, "p"⟩ false).2.activePanel = some ⟨2⟩ := by
  have hreachable : leftBehind.Reachable := ⟨_, _, rfl⟩
  obtain ⟨hreveals, hclick, hbehind⟩ := hreachable.focus_follows
  have hpanel : leftBehind.tree.panel? leftBehind.defaultPanel.1 =
      some ⟨[⟨⟨1⟩, "A", ⟨⟨1⟩, "p"⟩⟩], some ⟨1⟩⟩ := by decide +kernel
  refine ⟨by decide +kernel, by decide +kernel, hreveals _ _ (.opened "C" ⟨⟨3⟩, "p"⟩), ?_, ?_⟩
  · exact hclick ⟨1⟩ ⟨1, 1⟩ [⟨2, 1⟩] rfl (by decide +kernel) (by decide +kernel)
  · exact (hbehind "C" ⟨⟨3⟩, "p"⟩ _ hpanel (by simp)).1

end Focus

end Dock

end Docking
