import Docking.Proofs.Dock.Sound

/-!
# What operations on tabs do to a sound dock

An operation on a tab is a row of these: a tab lands, a tab leaves its panel, an item is changed.
The equations of this module say exactly what is different afterwards, the queue included.

## Main results

* `register_eq`, `dockFloating_eq`: a tab lands.
* `closeTab_eq`, `closeTab_of_floating`, `floatTab_eq`: a tab leaves its panel, or its window.
* `moveTab_eq`: a move is refused, or the tab leaves its panel and lands in what is left.
* `closeTab_parts`, `floatTab_parts`: what either does to any dock, sound or not.
* `activateTab_presents`, `cycleTab_presents`: a tab is shown.
-/

namespace Docking

namespace Item

theorem panel?_eq_some_iff {i : Item} {panel : NodeId} :
    i.panel? = some panel ↔ i.placement = .docked panel := by
  rw [panel?]
  cases i.placement <;> simp

theorem isFloating_iff {i : Item} :
    i.isFloating ↔ ∃ window surface, i.placement = .floating window surface := by
  rw [isFloating]
  cases i.placement <;> simp

theorem isFloating_eq {i : Item} : i.isFloating = i.panel?.isNone := by
  rw [isFloating, panel?]
  cases i.placement <;> rfl

theorem isFloating_of_window? {i : Item} {window : Window} (h : i.window? = some window) :
    i.isFloating := by
  rw [window?] at h
  rw [isFloating]
  cases hplacement : i.placement with
  | docked panel =>
      rw [hplacement] at h
      cases h
  | floating window surface => rfl

end Item

namespace Dock

open Layout hiding id

section Effects

variable {d : Dock} {l m : Layout} {tab : TabId} {panel : NodeId}

/-- The record of a docked tab. -/
theorem panelOf?_eq_some_iff :
    d.panelOf? tab = some panel ↔ ∃ i, d.item? tab = some i ∧ i.placement = .docked panel := by
  rw [panelOf?, Option.bind_eq_some_iff]
  simp only [Item.panel?_eq_some_iff]

/-- A tab floats if it is in no panel. -/
theorem isFloating_iff_panelOf? {i : Item} (hitem : d.item? tab = some i) :
    i.isFloating ↔ d.panelOf? tab = none := by
  rw [panelOf?, hitem, Option.bind_some, Item.isFloating_eq, Option.isNone_iff_eq_none]

theorem panelOf?_of_floating {i : Item} {window : Option Window} {surface : Surface}
    (hitem : d.item? tab = some i) (hplacement : i.placement = .floating window surface) :
    d.panelOf? tab = none :=
  (isFloating_iff_panelOf? hitem).1 (Item.isFloating_iff.2 ⟨window, surface, hplacement⟩)

theorem item?_setPlacement {i : Item} (hitem : d.item? tab = some i) (placement : Placement)
    (j : TabId) :
    (d.setPlacement tab placement).item? j =
      if tab = j then some { i with placement } else d.item? j := by
  rw [setPlacement, item?, Table.get?_modify]
  split
  · next htab =>
    subst htab
    rw [show d.items.get? tab = some i from hitem]
    rfl
  · rfl

/-- The name that the next tab gets is in no panel. -/
theorem Sound.next_notMem (h : d.Sound l) : (⟨d.nextTab⟩ : TabId) ∉ l.tabIds := by
  refine h.notMem_tabIds ?_
  rw [panelOf?]
  cases hitem : d.item? ⟨d.nextTab⟩ with
  | none => rfl
  | some i => exact absurd (h.fresh hitem) (Nat.lt_irrefl _)

theorem register_eq (h : d.Sound l) (title : String) (surface : Surface)
    (target : Option DropTarget) (activate : Bool) :
    ∃ panel m u active, d.register title surface target activate = (⟨d.nextTab⟩, { d with
        tree := u
        items := d.items.insert ⟨d.nextTab⟩ ⟨⟨d.nextTab⟩, title, surface.plugin, .docked panel⟩
        activePanel := active
        nextTab := d.nextTab + 1
        outbox := d.outbox ++ [.mount surface.id panel, .redraw] }) ∧
      u.Holds m ∧ (⟨d.nextTab⟩ : TabId) ∉ l.tabIds ∧
      l.Lands d.tree.nextNode ⟨⟨d.nextTab⟩, title, surface⟩ activate target panel m := by
  have hnew := h.next_notMem
  obtain ⟨panel, m, u, active, hplace, hholds, hlands⟩ :=
    placeEntry_eq (d := { d with nextTab := d.nextTab + 1 }) h.holds
      ⟨⟨d.nextTab⟩, title, surface⟩ hnew target activate
  refine ⟨panel, m, u.relayout, active, ?_, hholds.relayout, hnew, hlands⟩
  simp only [register, hplace, finish, emit, List.append_assoc]
  rfl

theorem closeTab_eq (h : d.Sound l) (hpanel : d.panelOf? tab = some panel) :
    ∃ p entry u, d.closeTab tab = { d with
        tree := u
        items := d.items.erase tab
        outbox := d.outbox ++
          [.unmount entry.surface.id, .destroy entry.surface, .redraw] } ∧
      (panel, p) ∈ l.panels ∧ entry ∈ p.tabs ∧ entry.id = tab ∧
      u.nextNode = d.tree.nextNode ∧ u.Holds (l.vacate panel (p.without tab)) := by
  obtain ⟨i, hi, hplacement⟩ := panelOf?_eq_some_iff.1 hpanel
  obtain ⟨p, hp, htab⟩ := h.exists_panel hpanel
  obtain ⟨entry, u, hdetach, hentry, hid, hholds, hnext⟩ :=
    detach_eq (d := { d with items := d.items.erase tab }) h.holds h.tidy hp htab
  refine ⟨p, entry, u.relayout, ?_, hp, hentry, hid, hnext, hholds.relayout⟩
  simp only [closeTab, hi, hplacement, hdetach, finish, emit, List.append_assoc]
  rfl

/-- A floating tab that is closed leaves the layout as it is. -/
theorem closeTab_of_floating {i : Item} {window : Option Window} {surface : Surface}
    (hitem : d.item? tab = some i) (hplacement : i.placement = .floating window surface) :
    d.closeTab tab = { d with
      tree := d.tree.relayout
      items := d.items.erase tab
      outbox := d.outbox ++ (window.toList.map .closeWindow ++ [.destroy surface, .redraw]) } := by
  simp only [closeTab, hitem, hplacement]
  cases window with
  | none => simp [emit, finish]
  | some window => simp [emit, finish]

theorem floatTab_eq (h : d.Sound l) (hpanel : d.panelOf? tab = some panel) :
    ∃ i p entry u, d.item? tab = some i ∧ d.floatTab tab = { d with
        tree := u
        items := d.items.modify tab fun i => { i with placement := .floating none entry.surface }
        outbox := d.outbox ++
          [.unmount entry.surface.id, .detachWindow tab i.plugin, .redraw] } ∧
      (panel, p) ∈ l.panels ∧ entry ∈ p.tabs ∧ entry.id = tab ∧
      u.Holds (l.vacate panel (p.without tab)) := by
  obtain ⟨i, hi, hplacement⟩ := panelOf?_eq_some_iff.1 hpanel
  obtain ⟨p, hp, htab⟩ := h.exists_panel hpanel
  obtain ⟨entry, u, hdetach, hentry, hid, hholds, -⟩ := detach_eq h.holds h.tidy hp htab
  refine ⟨i, p, entry, u.relayout, hi, ?_, hp, hentry, hid, hholds.relayout⟩
  have hpanel : i.panel? = some panel := Item.panel?_eq_some_iff.2 hplacement
  simp only [floatTab, hi, hpanel, hdetach, setPlacement, finish, emit, List.append_assoc]
  rfl

theorem floatTab_of_undocked (h : d.panelOf? tab = none) : d.floatTab tab = d := by
  unfold floatTab
  cases hitem : d.item? tab with
  | none => rfl
  | some i =>
      rw [panelOf?, hitem, Option.bind_some] at h
      simp only [h]

/-- What a move does that is not refused: the tab `entry` leaves the panel `source` and lands in
`panel`, in what is left of the layout. The dock is `e` and its layout `m` then. -/
structure Moved (d e : Dock) (l m : Layout) (entry : TabEntry) (target : DropTarget)
    (source panel : NodeId) (p q : Panel) : Prop where
  docked : d.panelOf? entry.id = some source
  leaves : (source, p) ∈ l.panels
  aims : (target.panel, q) ∈ l.panels
  elsewhere : dropsOnItself source target q = false
  mem : entry ∈ p.tabs
  same : e = { d with
    tree := e.tree
    items := (d.setPlacement entry.id (.docked panel)).items
    activePanel := e.activePanel
    outbox := d.outbox ++
      [.unmount entry.surface.id, .mount entry.surface.id panel, .redraw] }
  holds : e.tree.Holds m
  nodup : (l.vacate source (p.without entry.id)).ids.Nodup
  absent : entry.id ∉ (l.vacate source (p.without entry.id)).tabIds
  lands : (l.vacate source (p.without entry.id)).Lands d.tree.nextNode entry true (some target)
    panel m

theorem moveTab_eq (h : d.Sound l) (tab : TabId) (target : DropTarget) :
    d.moveTab tab target = (false, d) ∨
      ∃ e m entry source panel p q, d.moveTab tab target = (true, e) ∧ entry.id = tab ∧
        d.Moved e l m entry target source panel p q := by
  unfold moveTab
  cases hsource : d.panelOf? tab with
  | none => exact .inl rfl
  | some source =>
      cases htarget : d.tree.panel? target.panel with
      | none => exact .inl rfl
      | some q =>
          by_cases hself : dropsOnItself source target q
          · exact .inl (by simp [hself])
          · right
            obtain ⟨p, hp, htab⟩ := h.exists_panel hsource
            obtain ⟨entry, u, hdetach, hentry, rfl, hholds, hnext⟩ :=
              detach_eq h.holds h.tidy hp htab
            have hnew := notMem_tabIds_vacate h.tidy h.nodup hp htab
            obtain ⟨panel, m, v, active, hplace, hheld, hlands⟩ :=
              placeEntry_eq
                (d := { d with tree := u, outbox := d.outbox ++ [.unmount entry.surface.id] })
                hholds entry hnew (some target) true
            simp only [hself, hdetach, hplace, Bool.false_eq_true, if_false]
            refine ⟨_, m, entry, source, panel, p, q, rfl, rfl, ?_⟩
            exact
              { docked := hsource
                leaves := hp
                aims := h.holds.panel?_eq_some_iff.1 htarget
                elsewhere := by simpa using hself
                mem := hentry
                same := by
                  simp only [setPlacement, finish, emit, List.append_assoc]
                  rfl
                holds := hheld.relayout
                nodup := hholds.nodup
                absent := hnew
                lands := hnext ▸ hlands }

/-- A move within a panel that is not refused takes a tab from others. -/
theorem tabIds_ne_singleton {source : NodeId} {target : DropTarget} {q : Panel}
    (hself : dropsOnItself source target q = false) (hsource : target.panel = source)
    (tab : TabId) :
    q.tabIds ≠ [tab] := by
  intro hsingle
  have hlength : q.tabs.length = 1 := by
    rw [← q.length_tabIds, hsingle, List.length_singleton]
  simp [dropsOnItself, hsource, hlength] at hself

theorem dockFloating_eq (h : d.Sound l) {i : Item} {window : Option Window} {surface : Surface}
    (hitem : d.item? tab = some i) (hplacement : i.placement = .floating window surface)
    (target : Option DropTarget) :
    ∃ panel m u active, d.dockFloating tab target = (window, { d with
        tree := u
        items := (d.items.erase tab).insert tab { i with placement := .docked panel }
        activePanel := active
        outbox := d.outbox ++ [.mount surface.id panel, .redraw] }) ∧
      u.Holds m ∧ tab ∉ l.tabIds ∧
      l.Lands d.tree.nextNode ⟨tab, i.title, surface⟩ true target panel m := by
  have hnew := h.notMem_tabIds (panelOf?_of_floating hitem hplacement)
  obtain ⟨panel, m, u, active, hplace, hholds, hlands⟩ :=
    placeEntry_eq (d := { d with items := d.items.erase tab }) h.holds ⟨tab, i.title, surface⟩
      hnew target true
  refine ⟨panel, m, u.relayout, active, ?_, hholds.relayout, hnew, hlands⟩
  simp only [dockFloating, hitem, hplacement, hplace, finish, emit, List.append_assoc]
  rfl

theorem dockFloating_of_docked (h : (d.item? tab).any Item.isFloating = false)
    (target : Option DropTarget) : d.dockFloating tab target = (none, d) := by
  unfold dockFloating
  cases hitem : d.item? tab with
  | none => rfl
  | some i =>
      rw [hitem, Option.any_some] at h
      cases hplacement : i.placement with
      | docked panel => simp only [hplacement, Table.insert_erase hitem]
      | floating window surface =>
          rw [Item.isFloating_iff.2 ⟨window, surface, hplacement⟩] at h
          cases h

/-! ## Parting with a tab -/

/-- What taking a tab out of the layout makes of a dock: nothing changes, the tab leaves its panel,
or the layout has not had it. -/
inductive Parts (d : Dock) : Dock → Prop
  | nothing : Parts d d
  | leaves {tab : TabId} {panel : NodeId} {entry : TabEntry} {e : Dock}
      (hdetach : d.detach tab panel = (some entry, e)) (items : Table TabId Item) (c : Command) :
      Parts d ({ e with items }.emit c).finish
  | beside (items : Table TabId Item) (cmds : List Command) :
      Parts d { d with items, outbox := d.outbox ++ cmds }.finish

theorem closeTab_parts (d : Dock) (tab : TabId) : d.Parts (d.closeTab tab) := by
  unfold closeTab
  cases d.item? tab with
  | none => exact .nothing
  | some i =>
      dsimp only
      cases i.placement with
      | docked panel =>
          dsimp only
          rw [detach_items]
          cases hdetach : d.detach tab panel with
          | mk removed e =>
              cases removed with
              | none =>
                  have hbeside := Parts.beside (d := d) (d.items.erase tab) []
                  rw [List.append_nil] at hbeside
                  rw [eq_of_detach_none hdetach]
                  exact hbeside
              | some entry => exact .leaves hdetach _ _
      | floating window surface =>
          cases window with
          | none => exact .beside ..
          | some window =>
              have hbeside := Parts.beside (d := d) (d.items.erase tab)
                ([.closeWindow window] ++ [.destroy surface])
              rw [← List.append_assoc] at hbeside
              exact hbeside

theorem floatTab_parts (d : Dock) (tab : TabId) : d.Parts (d.floatTab tab) := by
  unfold floatTab
  split
  · exact .nothing
  · split
    · exact .nothing
    · split
      · next hdetach =>
        rw [eq_of_detach_none hdetach]
        exact .nothing
      · next hdetach => exact .leaves hdetach _ _

/-! ## Showing a tab -/

/-- What showing a tab makes of a dock: nothing changes, a panel shows another of its tabs, or the
window of a floating tab is to be raised. -/
inductive Presents (d : Dock) : Dock → Prop
  | nothing : Presents d d
  | tab {panel : NodeId} {p q : Panel} (hpanel : d.tree.panel? panel = some p)
      (hq : q.Fits ∧ q.tabs = p.tabs) :
      Presents d
        ({ d with tree := d.tree.setPanel panel q, activePanel := some panel }.emit .redraw)
  | window {tab : TabId} {i : Item} {window : Window} (hitem : d.item? tab = some i)
      (hwindow : i.window? = some window) : Presents d (d.emit (.raiseWindow window))

/-- A panel that does not show another tab is as it was. -/
private theorem presents_same {p : Panel} (hpanel : d.tree.panel? panel = some p) :
    d.Presents { d with tree := d.tree.setPanel panel p } := by
  rw [Tree.setPanel_self hpanel]
  exact .nothing

theorem activateTab_presents (d : Dock) (tab : TabId) : d.Presents (d.activateTab tab) := by
  unfold activateTab
  cases hitem : d.item? tab with
  | none => exact .nothing
  | some i =>
      dsimp only
      split
      · split
        · exact .nothing
        · next hpanel =>
          split
          · next hshow =>
            rw [Panel.eq_of_activate_false hshow]
            exact presents_same hpanel
          · next hshow => exact .tab hpanel (Panel.fits_activate hshow)
      · next window _ hplacement =>
        exact .window hitem (by rw [Item.window?, hplacement])
      · exact .nothing

theorem cycleTab_presents (h : d.tree.Holds l) (forward : Bool) :
    d.Presents (d.cycleTab forward) := by
  obtain ⟨panel, p, hdefault, hp⟩ := defaultPanel_eq h
  have hpanel : d.tree.panel? panel = some p := h.panel?_of_mem hp
  simp only [cycleTab, hdefault, hpanel]
  split
  · next hcycle =>
    rw [Panel.eq_of_cycle_none hcycle]
    exact presents_same hpanel
  · next hcycle => exact .tab hpanel (Panel.fits_cycle hcycle)

end Effects

end Dock

end Docking
