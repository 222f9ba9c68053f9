import Docking.Dock.Queue
import Docking.Proofs.Dock.Book
import Docking.Proofs.Dock.Steps

/-!
# Every operation takes a course

An operation on a dock that keeps a book leads to a dock that keeps a book, and between the two
books lies a course. This is shown once for each operation on tabs; gestures and drops are made of
these.

## Main results

* `register_turns`, `closeTab_turns`, `moveTab_turns` and so on: one operation.
* `apply_course`: every operation, with the commands that it queues.
-/

namespace Docking

namespace Dock

open Layout hiding id

/-- The commands that an operation queues. -/
def queued (d : Dock) (op : Operation) : List Command := (d.apply op).outbox.drop d.outbox.length

/-- On a dock with the book `b` the operation `op` leads to the dock `e`: it adds commands to the
queue, and the book takes a course. -/
def Turns (d e : Dock) (b : Book) (op : Operation) : Prop :=
  ∃ more m b', Queues d e more ∧ e.Keeps m b' ∧ Course b op b' (Command.work more)

section Courses

variable {d e : Dock} {l m : Layout} {b : Book} {op : Operation} {tab : TabId}

theorem Follows.sound {target : Option DropTarget} (h : e.Follows l target) (hm : e.tree.Holds m) :
    e.Sound m := by
  obtain ⟨m', hm', -⟩ := h
  rwa [hm.unique hm'.holds]

/-- More repaints do not matter. -/
theorem Turns.redraw (h : d.Turns e b op) : d.Turns (e.emit .redraw) b op := by
  obtain ⟨more, m, b', hmore, hkeeps, hcourse⟩ := h
  refine ⟨more ++ [.redraw], m, b', hmore.trans (queues_emit ..), hkeeps.emit _, ?_⟩
  rw [Command.work_append]
  simpa [Command.work, Command.isRedraw] using hcourse

/-- Where only repaints are queued and all tabs are where they were, nothing has happened. -/
theorem Keeps.turns_rest (he : e.Keeps m b) (hop : op.mayRest)
    {more : List Command} (hmore : Queues d e more) (hwork : Command.work more = []) :
    d.Turns e b op := by
  refine ⟨more, m, b, hmore, he, ?_⟩
  rw [hwork]
  exact .rest hop

theorem Keeps.turns_self (h : d.Keeps l b) (hop : op.mayRest) : d.Turns d b op :=
  h.turns_rest hop (List.append_nil _).symm rfl

/-- The gesture does not matter. -/
theorem Keeps.turns_still (h : d.Keeps l b) (hop : op.mayRest) (g : Option Gesture) :
    d.Turns { d with gesture := g } b op :=
  have hkeeps : { d with gesture := g }.Keeps l b := h.congr rfl rfl rfl
  hkeeps.turns_rest hop (List.append_nil _).symm rfl

/-- A gesture that ends before the operation does not matter. -/
theorem turns_dropGesture (h : d.dropGesture.Turns e b op) : d.Turns e b op := h

/-! ## Operations on tabs -/

theorem setViewport_turns (h : d.Keeps l b) (hop : op.mayRest) (area : Rect) :
    d.Turns (d.setViewport area) b op := by
  have hkeeps : { d with tree := d.tree.computeLayout area }.Keeps l b :=
    { h with holds := h.holds.computeLayout area }
  exact (hkeeps.emit .redraw).turns_rest hop (queues_emit ..) rfl

theorem register_turns (h : d.Keeps l b) {title : String} {surface : Surface}
    (hop : op.content? = some (title, surface)) (target : Option DropTarget) (activate : Bool) :
    d.Turns (d.register title surface target activate).2 b op := by
  obtain ⟨panel, m, u, active, hregister, hm, -, hlands⟩ :=
    register_eq h.toSound title surface target activate
  have hs := (register_follows h.toSound title surface target activate).sound (m := m)
    (by rw [hregister]; exact hm)
  have hfree : b.stays ⟨b.next⟩ = none := by
    cases hst : b.stays ⟨b.next⟩ with
    | none => rfl
    | some st => exact absurd (h.fresh (h.item_of_stay hst)) (h.next ▸ Nat.lt_irrefl _)
  rw [hregister] at hs ⊢
  refine ⟨[.mount surface.id panel, .redraw], m, b.enter panel title surface, rfl, ?_,
    .enter hop hfree panel⟩
  rw [Book.enter, ← h.next]
  refine h.landed hs rfl ?_ h.nodup hlands fun j => Table.get?_insert ..
  intro j x
  refine (and_iff_left_of_imp (h.id_ne_of_has ?_)).symm
  rw [h.next, hfree]
  rfl

/-- A tab is closed, if it is open. -/
theorem closeTab_keeps (h : d.Keeps l b) (tab : TabId) :
    ∃ more m, Queues d (d.closeTab tab) more ∧ (d.closeTab tab).Keeps m (b.set tab none) ∧
      Command.work more = (b.stays tab).elim [] Stay.farewell := by
  cases hst : b.stays tab with
  | none =>
      have hitem : d.item? tab = none := by rw [h.item, hst]; rfl
      rw [closeTab, hitem, Book.set_eq_self hst]
      exact ⟨[], l, (List.append_nil _).symm, h, rfl⟩
  | some st =>
      have hitem := h.item_of_stay hst
      have hfollows := closeTab_follows h.toSound tab
      cases st with
      | docked panel x =>
          have hpanel : d.panelOf? tab = some panel := by rw [h.panelOf?_eq, hst]; rfl
          obtain ⟨p, entry, u, hclose, hp, hentry, rfl, -, hm⟩ := closeTab_eq h.toSound hpanel
          have hs := hfollows.sound (by rw [hclose]; exact hm)
          obtain rfl : x = entry := by
            have hstay := h.stays_of_mem hp hentry
            rw [hst] at hstay
            cases hstay
            rfl
          rw [hclose] at hs ⊢
          refine ⟨_, _, rfl, h.left hp (List.mem_map_of_mem hentry) hs rfl none ?_ ?_, rfl⟩
          · intro s hs
            cases hs
          · exact fun j => Table.get?_erase ..
      | floating window x =>
          have hclose := closeTab_of_floating hitem rfl
          have hs := hfollows.sound (m := l) (by rw [hclose]; exact h.holds.relayout)
          rw [hclose] at hs ⊢
          refine ⟨_, l, rfl, ?_, ?_⟩
          · refine h.aside ?_ hs rfl none (by simp) fun j => Table.get?_erase ..
            rw [hst]
            rfl
          · cases window <;> rfl

theorem closeTab_turns (h : d.Keeps l b) (tab : TabId) :
    d.Turns (d.closeTab tab) b (.closeTab tab) := by
  obtain ⟨more, m, hmore, hkeeps, hwork⟩ := closeTab_keeps h tab
  refine ⟨more, m, b.set tab none, hmore, hkeeps, ?_⟩
  rw [hwork]
  cases hst : b.stays tab with
  | none =>
      rw [Book.set_eq_self hst]
      exact .rest rfl
  | some st => exact .close hst

/-- A tab that has a window stays in that window. -/
theorem Keeps.stays_of_window? (h : d.Keeps l b) {i : Item} {window : Window}
    (hitem : d.item? tab = some i) (hwindow : i.window? = some window) :
    ∃ entry, b.stays tab = some (.floating (some window) entry) := by
  obtain ⟨st, hst, hist⟩ := h.exists_stay hitem
  rw [hist, Stay.window?_item] at hwindow
  cases st with
  | docked panel x => cases hwindow
  | floating w x =>
      obtain rfl : w = some window := hwindow
      exact ⟨x, hst⟩

/-- A panel shows another of its tabs. -/
private theorem turns_touch (h : d.Keeps l b) (hop : op.mayRest) {panel : NodeId} {p q : Panel}
    (hp : (panel, p) ∈ l.panels) (hq : q.tabs = p.tabs)
    (hfollows : ({ d with
      tree := d.tree.setPanel panel q, activePanel := some panel }.emit .redraw).Follows l none) :
    d.Turns ({ d with
      tree := d.tree.setPanel panel q, activePanel := some panel }.emit .redraw) b op := by
  have hs := hfollows.sound (m := l.touch panel q) (Tree.setPanel_holds h.holds hp q)
  refine Keeps.turns_rest (m := l.touch panel q) ?_ hop (queues_emit ..) rfl
  exact
    { toSound := hs
      next := h.next
      item := h.item
      entry := (has_touch h.nodup hp hq).trans h.entry
      named := h.named }

theorem Presents.turns (hpresents : d.Presents e) (h : d.Keeps l b) (hop : op.mayRest) :
    d.Turns e b op := by
  have hfollows := hpresents.follows h.toSound
  cases hpresents with
  | nothing => exact h.turns_self hop
  | tab hpanel hq => exact turns_touch h hop (h.holds.panel?_eq_some_iff.1 hpanel) hq.2 hfollows
  | window hitem hwindow =>
      obtain ⟨entry, hst⟩ := h.stays_of_window? hitem hwindow
      exact ⟨_, l, b, queues_emit .., h.emit _, .raise hop hst⟩

theorem floatTab_turns (h : d.Keeps l b) (hop : op.mayRest) (tab : TabId) :
    d.Turns (d.floatTab tab) b op := by
  cases hpanel : d.panelOf? tab with
  | none =>
      rw [floatTab_of_undocked hpanel]
      exact h.turns_self hop
  | some panel =>
      obtain ⟨i, p, entry, u, hitem, hfloat, hp, hentry, rfl, hm⟩ := floatTab_eq h.toSound hpanel
      have hs := (floatTab_follows h.toSound entry.id).sound (by rw [hfloat]; exact hm)
      have hstay := h.stays_of_mem hp hentry
      obtain rfl : i = (Stay.docked panel entry).item :=
        Option.some.inj (hitem.symm.trans (h.item_of_stay hstay))
      rw [hfloat] at hs ⊢
      refine ⟨_, _, _, rfl,
        h.left hp (List.mem_map_of_mem hentry) hs rfl (some (.floating none entry)) ?_
          (item?_setPlacement hitem _), .float hop hstay⟩
      intro s hs
      cases hs
      exact ⟨rfl, rfl⟩

theorem attachWindow_turns (h : d.Keeps l b) (tab : TabId) (window : Window) :
    d.Turns (d.attachWindow tab window).2 b (.attachWindow tab window) := by
  have hfollows := attachWindow_follows h.toSound tab window
  have hnone (hrefused : ∀ old entry, b.stays tab ≠ some (.floating old entry)) :
      d.Turns (d.emit (.closeWindow window)) b (.attachWindow tab window) :=
    ⟨_, l, b, queues_emit .., h.emit _, .refuse hrefused⟩
  unfold attachWindow at hfollows ⊢
  rw [h.item] at hfollows ⊢
  cases hst : b.stays tab with
  | none => exact hnone (by simp [hst])
  | some st =>
      rw [hst] at hfollows
      cases st with
      | docked panel x => exact hnone (by simp [hst])
      | floating old x =>
          have hs := hfollows.sound (m := l) h.holds
          refine ⟨[], l, b.set tab (some (.floating (some window) x)), (List.append_nil _).symm, ?_,
            .attach hst⟩
          refine h.aside ?_ hs rfl (some (.floating (some window) x)) ?_
            (item?_setPlacement (h.item_of_stay hst) _)
          · rw [hst]
            rfl
          · intro s hs
            cases hs
            have hid : x.id = tab := h.named hst
            exact ⟨hid, rfl⟩

theorem moveTab_turns (h : d.Keeps l b) (hop : op.mayRest) (tab : TabId) (target : DropTarget) :
    d.Turns (d.moveTab tab target).2 b op := by
  have hfollows := moveTab_follows h.toSound tab target
  rcases moveTab_eq h.toSound tab target with
    hmove | ⟨e, m, entry, source, panel, p, q, hmove, rfl, k⟩
  · rw [hmove]
    exact h.turns_self hop
  · rw [hmove] at hfollows ⊢
    have hs := hfollows.sound k.holds
    have hstay := h.stays_of_mem k.leaves k.mem
    have hitem := h.item_of_stay hstay
    refine ⟨[.unmount entry.surface.id, .mount entry.surface.id panel, .redraw], m,
      b.set entry.id (some (.docked panel entry)), ?_, ?_, .move hop hstay panel⟩
    · show e.outbox = _
      rw [k.same]
    · refine h.landed hs (n := b.next) ?_ ?_ k.nodup k.lands ?_
      · rw [k.same]
        exact h.next
      · exact has_vacate h.tidy h.nodup k.leaves (List.mem_map_of_mem k.mem)
      · intro j
        rw [k.same]
        exact item?_setPlacement hitem _ j

/-- A floating tab is docked. -/
theorem dockFloating_keeps (h : d.Keeps l b) {window : Option Window} {entry : TabEntry}
    (hst : b.stays tab = some (.floating window entry)) (target : Option DropTarget) :
    ∃ panel m, Queues d (d.dockFloating tab target).2 [.mount entry.surface.id panel, .redraw] ∧
      (d.dockFloating tab target).1 = window ∧
      (d.dockFloating tab target).2.Keeps m (b.set tab (some (.docked panel entry))) := by
  have hitem := h.item_of_stay hst
  obtain rfl : entry.id = tab := h.named hst
  obtain ⟨panel, m, u, active, hdock, hm, -, hlands⟩ :=
    dockFloating_eq h.toSound hitem rfl target
  have hs := (dockFloating_follows h.toSound hitem rfl target).sound (m := m)
    (by rw [hdock]; exact hm)
  rw [hdock] at hs ⊢
  refine ⟨panel, m, rfl, rfl, h.landed hs h.next ?_ h.nodup hlands ?_⟩
  · intro j x
    refine (and_iff_left_of_imp (h.id_ne_of_has ?_)).symm
    rw [hst]
    rfl
  · intro j
    rw [item?, Table.get?_insert, Table.get?_erase]
    split
    · rfl
    · rfl

theorem dockFloating_turns (h : d.Keeps l b) (tab : TabId) (target : Option DropTarget) :
    d.Turns (d.dockFloating tab target).2 b (.dockFloating tab target) := by
  have hnone (hitem : (d.item? tab).any Item.isFloating = false)
      (hmiss : ∀ window entry, b.stays tab ≠ some (.floating window entry)) :
      d.Turns (d.dockFloating tab target).2 b (.dockFloating tab target) := by
    rw [dockFloating_of_docked hitem]
    exact ⟨[], l, b, (List.append_nil _).symm, h, .miss hmiss⟩
  cases hst : b.stays tab with
  | none => exact hnone (by simp [h.item, hst]) (by simp [hst])
  | some st =>
      cases st with
      | docked panel x =>
          exact hnone (by simp [h.item, hst, Stay.item, Item.isFloating]) (by simp [hst])
      | floating window x =>
          obtain ⟨panel, m, hmore, -, hkeeps⟩ := dockFloating_keeps h hst target
          exact ⟨_, m, _, hmore, hkeeps, .land hst panel⟩

/-! ## Gestures -/

theorem pointerDown_turns (h : d.Keeps l b) (hop : op.mayRest) (tab : TabId) (point : Point) :
    d.Turns (d.pointerDown tab point) b op := by
  have hpress : ∀ {e : Dock}, d.Turns e b op → d.Turns (e.press tab point) b op := by
    rintro e ⟨more, m, b', hmore, hkeeps, hcourse⟩
    unfold press
    split
    · exact ⟨more, m, b', hmore, hkeeps, hcourse⟩
    · exact ⟨more, m, b', hmore, hkeeps.congr rfl rfl rfl, hcourse⟩
  unfold pointerDown
  split
  · exact hpress (h.turns_self hop)
  · split
    · exact hpress (h.turns_still hop none).redraw
    · exact h.turns_self hop

theorem pointerMove_turns (h : d.Keeps l b) (hop : op.mayRest) (point : Point) :
    d.Turns (d.pointerMove point) b op := by
  unfold pointerMove
  split
  · exact h.turns_self hop
  · split
    · exact h.turns_self hop
    · dsimp only
      split
      · exact (h.turns_still hop _).redraw
      · exact h.turns_still hop _

theorem pointerUp_turns (h : d.Keeps l b) (hop : op.mayRest) : d.Turns d.pointerUp b op := by
  have hdropped : d.dropGesture.Keeps l b := h.congr rfl rfl rfl
  have hrelease := pointerUp_releases d
  generalize d.pointerUp = e at hrelease
  cases hrelease with
  | idle => exact h.turns_self hop
  | void => exact (h.turns_still hop none).redraw
  | click => exact turns_dropGesture ((activateTab_presents ..).turns hdropped hop)
  | off => exact (turns_dropGesture (floatTab_turns hdropped hop _)).redraw
  | drop => exact (turns_dropGesture (moveTab_turns hdropped hop _ _)).redraw

theorem cancelDrag_turns (h : d.Keeps l b) (hop : op.mayRest) : d.Turns d.cancelDrag b op := by
  unfold cancelDrag
  split
  · exact (h.turns_still hop none).redraw
  · exact h.turns_self hop

theorem externalOver_turns (h : d.Keeps l b) (hop : op.mayRest) (point : Point) :
    d.Turns (d.externalOver point) b op := by
  unfold externalOver
  dsimp only
  split
  · exact (h.turns_still hop _).redraw
  · split
    · exact (h.turns_still hop _).redraw
    · exact h.turns_self hop

theorem externalLeave_turns (h : d.Keeps l b) (hop : op.mayRest) :
    d.Turns d.externalLeave b op := by
  unfold externalLeave
  split
  · exact (h.turns_still hop none).redraw
  · exact h.turns_self hop

/-- A window is dropped, whichever of its tabs is found. -/
theorem dropWindow_turns (h : d.Keeps l b) {payload : Payload} {shown : Option TabId}
    (hfinds : d.Finds payload shown) (point : Point) :
    d.Turns (d.dropWindow payload shown point) b (.externalDrop payload point) := by
  cases shown with
  | none =>
      rw [dropWindow_none]
      refine ⟨_, l, b, rfl, h.congr rfl rfl rfl, ?_⟩
      have hwork : Command.work (.instantiate payload.plugin ((d.hitTest point).map Prod.fst) ::
          (payload.window.toList.map Command.closeWindow ++ [.redraw])) =
            .instantiate payload.plugin ((d.hitTest point).map Prod.fst) ::
              payload.window.toList.map .closeWindow := by
        cases payload.window <;> rfl
      rw [hwork]
      refine .request _ fun window hwindow tab st hst => ?_
      rw [← Stay.window?_item]
      exact hfinds window tab st.item hwindow (h.item_of_stay hst)
  | some tab =>
      obtain ⟨window, i, hwindow, hitem, hi⟩ := hfinds
      obtain ⟨entry, hst⟩ := h.stays_of_window? hitem hi
      obtain ⟨panel, m, hmore, -, hdocked⟩ :=
        dockFloating_keeps h hst ((d.hitTest point).map Prod.fst)
      rw [dropWindow_some d hwindow]
      obtain ⟨plugin, _⟩ := payload
      cases hwindow
      exact ⟨_, m, _, (hmore.trans (queues_emit ..)).trans (queues_emit ..),
        hdocked.congr rfl rfl rfl, .drop hst panel⟩

/-! ## Runs -/

/-- Every operation that does not take commands away takes a course. -/
theorem apply_turns (h : d.Keeps l b) (hop : op ≠ .takeCommands) : d.Turns (d.apply op) b op := by
  cases op with
  | setViewport area => exact setViewport_turns h rfl area
  | openTab title surface activate => exact register_turns h rfl none activate
  | dockNew title surface target => exact register_turns h rfl target true
  | closeTab tab => exact closeTab_turns h tab
  | activateTab tab => exact (activateTab_presents d tab).turns h rfl
  | cycleTab forward => exact (cycleTab_presents h.holds forward).turns h rfl
  | floatTab tab => exact floatTab_turns h rfl tab
  | attachWindow tab window => exact attachWindow_turns h tab window
  | moveTab tab target => exact moveTab_turns h rfl tab target
  | dockFloating tab target => exact dockFloating_turns h tab target
  | pointerDown tab point => exact pointerDown_turns h rfl tab point
  | pointerMove point => exact pointerMove_turns h rfl point
  | pointerUp => exact pointerUp_turns h rfl
  | cancelDrag => exact cancelDrag_turns h rfl
  | externalOver point => exact externalOver_turns h rfl point
  | externalLeave => exact externalLeave_turns h rfl
  | externalDrop payload point => exact dropWindow_turns h (h.finds payload) point
  | takeCommands => exact absurd rfl hop

theorem Queues.queued_eq {more : List Command} (h : Queues d (d.apply op) more) :
    d.queued op = more := by
  rw [queued, h, List.drop_left]

/-- Every operation takes a course with the commands that it queues. -/
theorem apply_course (h : d.Keeps l b) (op : Operation) :
    ∃ m b', (d.apply op).Keeps m b' ∧ Course b op b' (Command.work (d.queued op)) := by
  by_cases hop : op = .takeCommands
  · subst hop
    refine ⟨l, b, h.congr rfl rfl rfl, ?_⟩
    have hqueued : d.queued .takeCommands = [] := List.drop_nil
    rw [hqueued]
    exact .rest rfl
  · obtain ⟨more, m, b', hmore, hkeeps, hcourse⟩ := apply_turns h hop
    rw [← hmore.queued_eq] at hcourse
    exact ⟨m, b', hkeeps, hcourse⟩

end Courses

end Dock

end Docking
