import Docking.Proofs.Dock.Effects
import Docking.Proofs.Dock.Frame

/-!
# Runs keep a dock sound

Every operation keeps a dock sound, and panels below splits stay filled unless a tab is docked at an
edge of an empty panel. `Dock.Follows` says both of a dock and the layout that it had before.

## Main results

* `register_follows`, `closeTab_follows`, `moveTab_follows` and so on: one operation.
* `apply_follows`: every operation.
* `run_sound`: a dock is sound after every run.
-/

namespace Docking

namespace Dock

open Layout hiding id

section Steps

variable {d e : Dock} {l m : Layout} {tab : TabId} {panel : NodeId}

/-! ## What follows a layout -/

/-- A dock is sound for a layout that comes from `l`: if in `l` no panel below a split is empty,
then this stays so, unless `target` is an edge of an empty panel. -/
def Follows (d : Dock) (l : Layout) (target : Option DropTarget) : Prop :=
  ∃ m, d.Sound m ∧ (l.Filled → (m.Filled ↔ ¬ l.SplitsEmpty target))

theorem not_splitsEmpty_none (l : Layout) : ¬ l.SplitsEmpty none := by
  rintro ⟨t, ht, -⟩
  cases ht

theorem Sound.follows (h : d.Sound m) (hm : l.Filled → m.Filled) : d.Follows l none :=
  ⟨m, h, fun hl => iff_of_true (hm hl) (not_splitsEmpty_none l)⟩

/-- Where the tree, the items and the counter of tabs are the same, nothing has happened. -/
theorem Sound.still (h : d.Sound l) (htree : e.tree = d.tree) (hitems : e.items = d.items)
    (hnext : e.nextTab = d.nextTab) : e.Follows l none :=
  (h.congr htree hitems hnext).follows fun hfilled => hfilled

theorem Follows.congr {target : Option DropTarget} (h : d.Follows l target)
    (htree : e.tree = d.tree) (hitems : e.items = d.items) (hnext : e.nextTab = d.nextTab) :
    e.Follows l target := by
  obtain ⟨m, hm, hfilled⟩ := h
  exact ⟨m, hm.congr htree hitems hnext, hfilled⟩

theorem Follows.emit {target : Option DropTarget} (h : d.Follows l target) (c : Command) :
    (d.emit c).Follows l target :=
  h.congr rfl rfl rfl

/-- A tab that was in no panel has landed. -/
private theorem follows_of_lands (h : d.Sound l) {entry : TabEntry} {next : Nat} {activate : Bool}
    {target : Option DropTarget} (hm : e.tree.Holds m) (hnew : entry.id ∉ l.tabIds)
    (hlands : l.Lands next entry activate target panel m) {i : Item}
    (hitem : ∀ j, e.item? j = if entry.id = j then some i else d.item? j)
    (hself : i.id = entry.id ∧ i.panel? = some panel) (hlt : entry.id.number < e.nextTab)
    (hnext : d.nextTab ≤ e.nextTab) : e.Follows l target := by
  refine ⟨m, ?_, fun hfilled => hlands.filled_iff h.nodup hm.nodup hfilled⟩
  refine h.update hm (hlands.tidy h.nodup h.tidy hnew) (hlands.loneEmpty h.nodup h.lone) hitem ?_
    hnext ?_
  · intro j hj
    rw [Option.mem_some_iff] at hj
    exact hj ▸ ⟨hself.1, hlt⟩
  · intro j t
    have hne : l.Shows j t → t ≠ entry.id := fun hs e => hnew (mem_tabIds.2 ⟨j, e ▸ hs⟩)
    rw [hlands.shows h.nodup, Option.bind_some, hself.2, Option.some_inj]
    constructor
    · rintro (hs | ⟨rfl, ht⟩)
      · exact .inl ⟨hs, hne hs⟩
      · exact .inr ⟨ht, rfl⟩
    · rintro (⟨hs, -⟩ | ⟨ht, rfl⟩)
      · exact .inl hs
      · exact .inr ⟨rfl, ht⟩

/-- A tab has left its panel for good, or to float. -/
private theorem follows_of_vacate (h : d.Sound l) {p : Panel} (hp : (panel, p) ∈ l.panels)
    (htab : tab ∈ p.tabIds) (hm : e.tree.Holds (l.vacate panel (p.without tab)))
    (item : Option Item) (hitem : ∀ j, e.item? j = if tab = j then item else d.item? j)
    (hself : ∀ i ∈ item, i.id = tab ∧ i.panel? = none ∧ tab.number < d.nextTab)
    (hnext : e.nextTab = d.nextTab) : e.Follows l none := by
  refine Sound.follows (m := l.vacate panel (p.without tab)) ?_ fun _ => filled_vacate _ _ _
  refine h.update hm (tidy_vacate h.tidy h.nodup hp tab) (loneEmpty_pruned _) hitem ?_
    (Nat.le_of_eq hnext.symm) ?_
  · intro i hi
    rw [hnext]
    exact ⟨(hself i hi).1, (hself i hi).2.2⟩
  · intro j t
    have hpanel := Option.bind_eq_none_iff.2 fun i hi => (hself i hi).2.1
    rw [shows_vacate h.tidy h.nodup hp htab, hpanel]
    simp

/-- A panel shows another of its tabs. -/
private theorem follows_of_touch (h : d.Sound l) {p q : Panel} (hp : (panel, p) ∈ l.panels)
    (hq : q.Fits ∧ q.tabs = p.tabs) (htree : e.tree = d.tree.setPanel panel q)
    (hitems : e.items = d.items) (hnext : e.nextTab = d.nextTab) : e.Follows l none := by
  have hsound : { d with tree := d.tree.setPanel panel q }.Sound (l.touch panel q) :=
    { h with
      holds := Tree.setPanel_holds h.holds hp q
      tidy := tidy_touch h.tidy h.nodup hp hq.1 hq.2
      lone := loneEmpty_touch h.lone h.nodup hp hq.2
      shown := fun {_ _} => h.shown.trans (shows_touch h.nodup hp hq.2).symm }
  exact (hsound.congr htree hitems hnext).follows
    fun hfilled => filled_touch hfilled h.nodup hp hq.2

/-- The item of a tab that is in no panel is changed, and the tab stays out. -/
private theorem follows_of_floating (h : d.Sound l) (hnone : d.panelOf? tab = none)
    (hm : e.tree.Holds l) (item : Option Item)
    (hitem : ∀ j, e.item? j = if tab = j then item else d.item? j)
    (hself : ∀ i ∈ item, i.id = tab ∧ i.panel? = none ∧ tab.number < d.nextTab)
    (hnext : e.nextTab = d.nextTab) : e.Follows l none := by
  refine Sound.follows (m := l) ?_ fun hfilled => hfilled
  refine h.update hm h.tidy h.lone hitem ?_ (Nat.le_of_eq hnext.symm) ?_
  · intro i hi
    rw [hnext]
    exact ⟨(hself i hi).1, (hself i hi).2.2⟩
  · intro j t
    have hpanel := Option.bind_eq_none_iff.2 fun i hi => (hself i hi).2.1
    have hne : l.Shows j t → t ≠ tab := fun hs e => h.notMem_tabIds hnone (mem_tabIds.2 ⟨j, e ▸ hs⟩)
    rw [hpanel]
    simpa using hne

/-! ## Operations on tabs -/

theorem setViewport_follows (h : d.Sound l) (area : Rect) : (d.setViewport area).Follows l none :=
  have hsound : { d with tree := d.tree.computeLayout area }.Sound l :=
    { h with holds := h.holds.computeLayout area }
  (hsound.emit .redraw).follows fun hfilled => hfilled

theorem register_follows (h : d.Sound l) (title : String) (surface : Surface)
    (target : Option DropTarget) (activate : Bool) :
    (d.register title surface target activate).2.Follows l target := by
  obtain ⟨panel, m, u, active, hregister, hm, hnew, hlands⟩ :=
    register_eq h title surface target activate
  rw [hregister]
  exact follows_of_lands h hm hnew hlands (fun j => Table.get?_insert ..) ⟨rfl, rfl⟩
    (Nat.lt_succ_self _) (Nat.le_succ _)

theorem closeTab_follows (h : d.Sound l) (tab : TabId) : (d.closeTab tab).Follows l none := by
  cases hitem : d.item? tab with
  | none =>
      rw [closeTab, hitem]
      exact h.still rfl rfl rfl
  | some i =>
      cases hpanel : d.panelOf? tab with
      | some panel =>
          obtain ⟨p, entry, u, hclose, hp, hentry, hid, -, hm⟩ := closeTab_eq h hpanel
          rw [hclose]
          exact follows_of_vacate h hp (List.mem_map.2 ⟨entry, hentry, hid⟩) hm none
            (fun j => Table.get?_erase ..) (fun i hi => by simp at hi) rfl
      | none =>
          obtain ⟨window, surface, hplacement⟩ :=
            Item.isFloating_iff.1 ((isFloating_iff_panelOf? hitem).2 hpanel)
          rw [closeTab_of_floating hitem hplacement]
          exact follows_of_floating h hpanel h.holds.relayout none (fun j => Table.get?_erase ..)
            (fun i hi => by simp at hi) rfl

theorem Presents.follows (hpresents : d.Presents e) (h : d.Sound l) : e.Follows l none := by
  cases hpresents with
  | nothing => exact h.still rfl rfl rfl
  | tab hpanel hq =>
      exact follows_of_touch h (h.holds.panel?_eq_some_iff.1 hpanel) hq rfl rfl rfl
  | window => exact h.still rfl rfl rfl

theorem floatTab_follows (h : d.Sound l) (tab : TabId) : (d.floatTab tab).Follows l none := by
  cases hpanel : d.panelOf? tab with
  | none =>
      rw [floatTab_of_undocked hpanel]
      exact h.still rfl rfl rfl
  | some panel =>
      obtain ⟨i, p, entry, u, hitem, hfloat, hp, hentry, hid, hm⟩ := floatTab_eq h hpanel
      rw [hfloat]
      have hkeyed := h.keyed hitem
      refine follows_of_vacate h hp (List.mem_map.2 ⟨entry, hentry, hid⟩) hm
        (some { i with placement := .floating none entry.surface })
        (item?_setPlacement hitem _) ?_ rfl
      intro j hj
      rw [Option.mem_some_iff] at hj
      subst hj
      exact ⟨hkeyed, rfl, h.fresh hitem⟩

theorem attachWindow_follows (h : d.Sound l) (tab : TabId) (window : Window) :
    (d.attachWindow tab window).2.Follows l none := by
  unfold attachWindow
  split
  · next old surface hplacement =>
    obtain ⟨i, hitem, hi⟩ := Option.map_eq_some_iff.1 hplacement
    have hnone : d.panelOf? tab = none := panelOf?_of_floating hitem hi
    have hkeyed := h.keyed hitem
    refine follows_of_floating h hnone h.holds
      (some { i with placement := .floating (some window) surface })
      (item?_setPlacement hitem _) ?_ rfl
    intro j hj
    rw [Option.mem_some_iff] at hj
    subst hj
    exact ⟨hkeyed, rfl, h.fresh hitem⟩
  · exact h.still rfl rfl rfl

/-- A move that is not refused does not lead to an edge of an empty panel, if no panel below a split
is empty. -/
private theorem not_splitsEmpty_vacate (h : d.Sound l) (hfilled : l.Filled) {source : NodeId}
    {p q : Panel} {target : DropTarget} (hp : (source, p) ∈ l.panels) (htab : tab ∈ p.tabIds)
    (hq : (target.panel, q) ∈ l.panels) (hself : dropsOnItself source target q = false) :
    ¬ (l.vacate source (p.without tab)).SplitsEmpty (some target) := by
  rintro ⟨t, ht, hedge, r, hr, he⟩
  rw [Option.mem_some_iff] at ht
  subst ht
  rcases mem_panels_of_mem_vacate h.nodup hp hr with ⟨hr, hne⟩ | hr
  · exact hne (congrArg Prod.fst (hfilled.eq_of_isEmpty h.nodup hr he hp)).symm
  · obtain ⟨hsource, rfl⟩ := Prod.mk.inj hr
    have hmany := tabIds_ne_singleton hself hsource tab
    rw [hsource] at hq
    obtain rfl : q = p := panel_unique h.nodup hq hp
    exact hmany ((Panel.isEmpty_without_iff (h.tidy.nodup_panel hp) htab).1 he)

theorem moveTab_follows (h : d.Sound l) (tab : TabId) (target : DropTarget) :
    (d.moveTab tab target).2.Follows l none := by
  rcases moveTab_eq h tab target with hmove | ⟨e, m, entry, source, panel, p, q, hmove, -, k⟩
  · rw [hmove]
    exact h.still rfl rfl rfl
  · rw [hmove]
    have htab : entry.id ∈ p.tabIds := List.mem_map.2 ⟨entry, k.mem, rfl⟩
    have htidy := tidy_vacate h.tidy h.nodup k.leaves entry.id
    obtain ⟨i, hitem, -⟩ := panelOf?_eq_some_iff.1 k.docked
    have hkeyed := h.keyed hitem
    have hnext : e.nextTab = d.nextTab := by rw [k.same]
    have hitems : ∀ j, e.item? j =
        if entry.id = j then some { i with placement := .docked panel } else d.item? j := by
      intro j
      rw [k.same]
      exact item?_setPlacement hitem (.docked panel) j
    refine Sound.follows (m := m) ?_ fun hfilled => ?_
    · refine h.update k.holds (k.lands.tidy k.nodup htidy k.absent)
        (k.lands.loneEmpty k.nodup (loneEmpty_pruned _)) hitems ?_ (Nat.le_of_eq hnext.symm) ?_
      · intro j hj
        rw [Option.mem_some_iff] at hj
        subst hj
        exact ⟨hkeyed, hnext ▸ h.fresh hitem⟩
      · intro j t
        rw [k.lands.shows k.nodup, shows_vacate h.tidy h.nodup k.leaves htab, Option.bind_some]
        refine or_congr_right ?_
        rw [Item.panel?, Option.some_inj, and_comm, eq_comm (a := j)]
    · exact (k.lands.filled_iff k.nodup k.holds.nodup (filled_vacate _ _ _)).2
        (not_splitsEmpty_vacate h hfilled k.leaves htab k.aims k.elsewhere)

theorem dockFloating_follows (h : d.Sound l) {i : Item} (hitem : d.item? tab = some i)
    (hfloating : i.isFloating) (target : Option DropTarget) :
    (d.dockFloating tab target).2.Follows l target := by
  obtain ⟨window, surface, hplacement⟩ := Item.isFloating_iff.1 hfloating
  obtain ⟨panel, m, u, active, hdock, hm, hnew, hlands⟩ :=
    dockFloating_eq h hitem hplacement target
  rw [hdock]
  have hkeyed := h.keyed hitem
  refine follows_of_lands h hm hnew hlands (i := { i with placement := .docked panel }) ?_
    ⟨hkeyed, rfl⟩ (h.fresh hitem) (Nat.le_refl _)
  intro j
  rw [item?, Table.get?_insert, Table.get?_erase]
  split
  · rfl
  · rfl

/-! ## Gestures -/

theorem pointerDown_follows (h : d.Sound l) (tab : TabId) (point : Point) :
    (d.pointerDown tab point).Follows l none := by
  have hpress : ∀ {e : Dock}, e.Sound l → (e.press tab point).Follows l none := by
    intro e he
    unfold press
    split
    · exact he.still rfl rfl rfl
    · exact he.still rfl rfl rfl
  unfold pointerDown
  split
  · exact hpress h
  · split
    · exact hpress (h.congr rfl rfl rfl)
    · exact h.still rfl rfl rfl

theorem pointerMove_follows (h : d.Sound l) (point : Point) :
    (d.pointerMove point).Follows l none := by
  unfold pointerMove
  split
  · exact h.still rfl rfl rfl
  · split
    · exact h.still rfl rfl rfl
    · dsimp only
      split
      · exact h.still rfl rfl rfl
      · exact h.still rfl rfl rfl

theorem pointerUp_follows (h : d.Sound l) : d.pointerUp.Follows l none := by
  have hdropped : d.dropGesture.Sound l := h.congr rfl rfl rfl
  have hrelease := pointerUp_releases d
  generalize d.pointerUp = e at hrelease
  cases hrelease with
  | idle => exact h.still rfl rfl rfl
  | void => exact hdropped.still rfl rfl rfl
  | click => exact (activateTab_presents ..).follows hdropped
  | off => exact (floatTab_follows hdropped _).emit _
  | drop => exact (moveTab_follows hdropped _ _).emit _

theorem cancelDrag_follows (h : d.Sound l) : d.cancelDrag.Follows l none := by
  unfold cancelDrag
  split
  · exact h.still rfl rfl rfl
  · exact h.still rfl rfl rfl

theorem externalOver_follows (h : d.Sound l) (point : Point) :
    (d.externalOver point).Follows l none := by
  unfold externalOver
  dsimp only
  split
  · exact h.still rfl rfl rfl
  · split
    · exact h.still rfl rfl rfl
    · exact h.still rfl rfl rfl

theorem externalLeave_follows (h : d.Sound l) : d.externalLeave.Follows l none := by
  unfold externalLeave
  split
  · exact h.still rfl rfl rfl
  · exact h.still rfl rfl rfl

/-- A window is dropped, whichever of its tabs is found. -/
theorem dropWindow_follows (h : d.Sound l) {payload : Payload} {shown : Option TabId}
    (hfinds : d.Finds payload shown) (point : Point) :
    (d.dropWindow payload shown point).Follows l
      (if shown.isSome then (d.hitTest point).map Prod.fst else none) := by
  cases shown with
  | none =>
      rw [dropWindow_none]
      exact h.still rfl rfl rfl
  | some tab =>
      obtain ⟨window, i, hwindow, hitem, hi⟩ := hfinds
      rw [dropWindow_some d hwindow]
      have hdocked := dockFloating_follows h hitem (Item.isFloating_of_window? hi)
        ((d.hitTest point).map Prod.fst)
      exact hdocked.congr rfl rfl rfl

/-! ## Runs -/

/-- Every operation keeps a dock sound. Panels below splits stay filled, unless the operation docks
a tab at an edge of an empty panel. -/
theorem apply_follows (h : d.Sound l) (op : Operation) :
    (d.apply op).Follows l (d.docking op) := by
  cases op with
  | setViewport area => exact setViewport_follows h area
  | openTab title surface activate => exact register_follows h title surface none activate
  | dockNew title surface target => exact register_follows h title surface target true
  | closeTab tab => exact closeTab_follows h tab
  | activateTab tab => exact (activateTab_presents d tab).follows h
  | cycleTab forward => exact (cycleTab_presents h.holds forward).follows h
  | floatTab tab => exact floatTab_follows h tab
  | attachWindow tab window => exact attachWindow_follows h tab window
  | moveTab tab target => exact moveTab_follows h tab target
  | dockFloating tab target =>
      show (d.dockFloating tab target).2.Follows l _
      rw [docking]
      cases hfloating : (d.item? tab).any Item.isFloating with
      | true =>
          obtain ⟨i, hitem, hi⟩ := (Option.any_eq_true ..).1 hfloating
          exact dockFloating_follows h hitem hi target
      | false =>
          rw [dockFloating_of_docked hfloating]
          exact h.still rfl rfl rfl
  | pointerDown tab point => exact pointerDown_follows h tab point
  | pointerMove point => exact pointerMove_follows h point
  | pointerUp => exact pointerUp_follows h
  | cancelDrag => exact cancelDrag_follows h
  | externalOver point => exact externalOver_follows h point
  | externalLeave => exact externalLeave_follows h
  | externalDrop payload point => exact dropWindow_follows h (h.finds payload) point
  | takeCommands => exact h.still rfl rfl rfl

/-- A dock is sound after every run. -/
theorem run_sound (settings : DragSettings) (ops : List Operation) :
    ∃ l, ((new settings).run ops).Sound l := by
  refine run_induction (motive := fun d => ∃ l, d.Sound l) (fun settings => ⟨_, sound_new settings⟩)
    ?_ settings ops
  rintro d op ⟨l, h⟩
  obtain ⟨m, hm, -⟩ := apply_follows h op
  exact ⟨m, hm⟩

theorem Reachable.sound (h : d.Reachable) : ∃ l, d.Sound l := by
  obtain ⟨settings, ops, rfl⟩ := h
  exact run_sound settings ops

end Steps

end Dock

end Docking
