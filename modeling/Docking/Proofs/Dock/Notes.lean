import Docking.Proofs.Dock.Content
import Docking.Proofs.Dock.InFlight
import Docking.Proofs.Dock.Redocking
import Docking.Proofs.Dock.Writes

/-!
# What is noted was there

A dock keeps names of panels that may be gone: the active panel, the panel where a tab was pressed,
and the panel that the gesture aims at. Commands name panels and tabs too, and are carried out
later; and whoever opens a tab is told its name. Whatever is named in one of these ways was there
when its name was noted.

## Main definitions

* `Gesture.Notes`, `Dock.Notes`: the panels that a dock has noted.
* `Dock.Once`: at some stage of a run it was so.

## Main results

* `Sound.apply_notes`: what is noted after an operation was noted before, or it is there.
* `Keeps.apply_asks`, `Keeps.apply_detaches`: what a command names is there when it is queued.
* `run_notes`, `run_emits`, `run_opens`: what is noted, emitted and opened in a run.
-/

namespace Docking

/-! ## Notes of a gesture -/

namespace Gesture

/-- The panels that a gesture has noted: where it began, and what it aims at. -/
def Notes (g : Gesture) (panel : NodeId) : Prop :=
  g.source = some panel ∨ g.target.map DropTarget.panel = some panel

/-- A gesture that aims at something else has noted where it began and the new target. -/
theorem notes_aim {g : Gesture} {found : Option (DropTarget × Rect)} {panel : NodeId}
    (h : (g.aim found).Notes panel) :
    g.source = some panel ∨ ∃ x, found = some x ∧ x.1.panel = panel := by
  cases found with
  | none =>
      rcases h with hsource | htarget
      · exact .inl hsource
      · cases htarget
  | some x =>
      rcases h with hsource | htarget
      · exact .inl hsource
      · exact .inr ⟨x, rfl, Option.some.inj htarget⟩

end Gesture

/-! ## Commands that name tabs and panels -/

section Courses

variable {b b' : Book} {op : Operation} {cmds : List Command} {tab : TabId} {plugin : String}

theorem Course.of_instantiate {target : Option DropTarget} (h : Course b op b' cmds)
    (k : .instantiate plugin target ∈ cmds) :
    ∃ payload point, op = .externalDrop payload point ∧
      ∀ window ∈ payload.window, ∀ tab st, b.stays tab = some st → st.window? ≠ some window := by
  cases h with
  | request _ hforeign => exact ⟨_, _, rfl, hforeign⟩
  | @close _ st _ => cases st <;> simp [Stay.farewell] at k
  | _ => simp at k

theorem Course.of_detachWindow (h : Course b op b' cmds) (k : .detachWindow tab plugin ∈ cmds) :
    ∃ st, b.stays tab = some st ∧ st.entry.surface.plugin = plugin := by
  cases h with
  | float _ hst =>
      simp only [List.mem_cons, reduceCtorEq, Command.detachWindow.injEq, List.not_mem_nil,
        or_false, false_or] at k
      obtain ⟨rfl, rfl⟩ := k
      exact ⟨_, hst, rfl⟩
  | @close _ st _ => cases st <;> simp [Stay.farewell] at k
  | _ => simp at k

end Courses

namespace Dock

/-- The panels that a dock has noted, whether they are still there or not. -/
inductive Notes (d : Dock) (panel : NodeId) : Prop where
  | active (h : d.activePanel = some panel)
  | gesture {g : Gesture} (h : d.gesture = some g) (k : g.Notes panel)

section Notes

variable {d e : Dock} {l : Layout} {b : Book} {panel : NodeId} {tab : TabId}

/-! ## Gestures -/

/-- What the gesture of `e` has noted, `d` had noted before, or it is a panel of `e`. -/
def Recalls (d e : Dock) : Prop :=
  ∀ g panel, e.gesture = some g → g.Notes panel → d.Notes panel ∨ (e.tree.panel? panel).isSome

theorem recalls_of_eq (h : e.gesture = d.gesture) : d.Recalls e :=
  fun _ _ hg k => .inl (.gesture (h ▸ hg) k)

theorem recalls_of_none (h : e.gesture = none) : d.Recalls e := by
  intro g panel hg
  rw [h] at hg
  cases hg

theorem Sound.recalls_press (h : d.Sound l) (tab : TabId) (point : Point) :
    d.Recalls (d.press tab point) := by
  unfold press
  split
  · exact recalls_of_eq rfl
  · next source hsource =>
    intro g panel hg k
    cases hg
    rcases k with hpanel | htarget
    · obtain rfl : source = panel := Option.some.inj hpanel
      obtain ⟨p, hp, -⟩ := h.exists_panel hsource
      exact .inr (Option.isSome_of_eq_some (h.holds.panel?_of_mem hp))
    · cases htarget

theorem Sound.recalls_pointerDown (h : d.Sound l) (tab : TabId) (point : Point) :
    d.Recalls (d.pointerDown tab point) := by
  unfold pointerDown
  split
  · exact h.recalls_press tab point
  · split
    · have hrest : (d.dropGesture.emit .redraw).Sound l := h.congr rfl rfl rfl
      intro g panel hg k
      refine (hrest.recalls_press tab point g panel hg k).imp_left fun hnotes => ?_
      cases hnotes with
      | active hactive => exact .active hactive
      | gesture hgesture => cases hgesture
    · exact recalls_of_eq rfl

/-- A gesture that is aimed at what is under the pointer notes a panel that is there. -/
theorem Sound.recalls_aim (h : d.Sound l) (g : Gesture) {point : Point}
    (hsource : ∀ panel, g.source = some panel → d.Notes panel) (htree : e.tree = d.tree)
    (he : e.gesture = some (g.aim (d.hitTest point))) : d.Recalls e := by
  intro g' panel hg k
  rw [he] at hg
  cases hg
  rcases Gesture.notes_aim k with hpanel | ⟨⟨target, area⟩, hhit, rfl⟩
  · exact .inl (hsource panel hpanel)
  · obtain ⟨p, hp⟩ := h.mem_panels_of_hitTest hhit
    rw [htree]
    exact .inr (Option.isSome_of_eq_some (h.holds.panel?_of_mem hp))

theorem Sound.recalls_pointerMove (h : d.Sound l) (point : Point) :
    d.Recalls (d.pointerMove point) := by
  unfold pointerMove
  split
  · exact recalls_of_eq rfl
  · next g hg =>
    split
    · exact recalls_of_eq rfl
    · dsimp only
      split
      · let dragged : Gesture := { g with pointer := point, dragging := true }
        exact h.recalls_aim dragged (fun panel hpanel => .gesture hg (.inl hpanel)) rfl rfl
      · intro g' panel hg' k
        cases hg'
        exact .inl (.gesture hg k)

theorem Sound.recalls_externalOver (h : d.Sound l) (point : Point) :
    d.Recalls (d.externalOver point) := by
  unfold externalOver
  dsimp only
  split
  · exact h.recalls_aim (.enter point) (fun _ hpanel => by cases hpanel) rfl rfl
  · next g hg =>
    split
    · let moved : Gesture := { g with pointer := point }
      exact h.recalls_aim moved (fun panel hpanel => .gesture hg (.inl hpanel)) rfl rfl
    · exact recalls_of_eq rfl

theorem recalls_withoutWindow (he : e.gesture = d.gestureWithoutWindow) : d.Recalls e := by
  unfold gestureWithoutWindow at he
  split at he
  · exact recalls_of_none he
  · exact recalls_of_eq he

theorem Sound.recalls_apply (h : d.Sound l) (op : Operation) : d.Recalls (d.apply op) := by
  by_cases hop : op.steers = false
  · exact recalls_of_eq (gesture_apply d hop)
  · cases op with
    | pointerDown tab point => exact h.recalls_pointerDown tab point
    | pointerMove point => exact h.recalls_pointerMove point
    | pointerUp => exact recalls_of_none (gesture_pointerUp d)
    | cancelDrag => exact recalls_of_none (gesture_cancelDrag d)
    | externalOver point => exact h.recalls_externalOver point
    | externalLeave => exact recalls_withoutWindow (gesture_externalLeave d)
    | externalDrop payload point =>
        exact recalls_withoutWindow (gesture_dropWindow d payload _ point)
    | _ => exact absurd rfl hop

/-- A panel that is noted after an operation was noted before, or it is there. -/
theorem Sound.apply_notes (h : d.Sound l) (op : Operation) (k : (d.apply op).Notes panel) :
    d.Notes panel ∨ ((d.apply op).tree.panel? panel).isSome := by
  cases k with
  | active hactive =>
      rcases (apply_reshapes h op).2 with hsame | ⟨shown, hshown, hpanel⟩
      · exact .inl (.active (hsame ▸ hactive))
      · obtain rfl : shown = panel := Option.some.inj (hshown.symm.trans hactive)
        exact .inr hpanel
  | gesture hgesture hnotes => exact h.recalls_apply op _ panel hgesture hnotes

/-! ## Commands -/

/-- The panel at which a command aims was there when the command was queued. -/
theorem Keeps.apply_asks (h : d.Keeps l b) {op : Operation} {plugin : String} {target : DropTarget}
    (k : .instantiate plugin (some target) ∈ d.queued op) :
    (d.tree.panel? target.panel).isSome := by
  obtain ⟨m, b', -, hcourse⟩ := apply_course h op
  obtain ⟨payload, point, rfl, hforeign⟩ := hcourse.of_instantiate (List.mem_filter.2 ⟨k, rfl⟩)
  have hfind : payload.window.bind d.findWindow = none := by
    refine Option.bind_eq_none_iff.2 fun window hwindow => Option.eq_none_iff_forall_ne_some.2 ?_
    intro tab hfound
    obtain ⟨i, hitem, hi⟩ := h.item?_of_findWindow hfound
    obtain ⟨entry, hst⟩ := h.stays_of_window? hitem hi
    exact hforeign window hwindow tab _ hst rfl
  have hqueues : Queues d (d.apply (.externalDrop payload point))
      (.instantiate payload.plugin ((d.hitTest point).map Prod.fst) ::
        (payload.window.toList.map .closeWindow ++ [.redraw])) := by
    rw [apply, externalDrop, hfind, dropWindow_none]
    rfl
  rw [hqueues.queued_eq] at k
  have htarget : some target = (d.hitTest point).map Prod.fst := by
    rcases List.mem_cons.1 k with hasked | hother
    · exact (Command.instantiate.inj hasked).2
    · simp at hother
  obtain ⟨x, hhit, rfl⟩ := Option.map_eq_some_iff.1 htarget.symm
  obtain ⟨p, hp⟩ := h.mem_panels_of_hitTest hhit
  exact Option.isSome_of_eq_some (h.holds.panel?_of_mem hp)

theorem Keeps.apply_detaches (h : d.Keeps l b) {op : Operation} {plugin : String}
    (k : .detachWindow tab plugin ∈ d.queued op) :
    ∃ i, d.item? tab = some i ∧ i.plugin = plugin := by
  obtain ⟨m, b', -, hcourse⟩ := apply_course h op
  obtain ⟨st, hst, hplugin⟩ := hcourse.of_detachWindow (List.mem_filter.2 ⟨k, rfl⟩)
  exact ⟨st.item, h.item_of_stay hst, st.plugin_item.trans hplugin⟩

/-! ## Tabs that are opened -/

theorem Keeps.apply_opens (h : d.Keeps l b) {op : Operation} {x : TabEntry}
    (k : x ∈ d.opened op) :
    ∃ i, (d.apply op).item? x.id = some i ∧ i.title = x.title ∧ i.plugin = x.surface.plugin := by
  obtain ⟨m, b', hkeeps, hcourse⟩ := apply_course h op
  rw [h.opened_eq, List.mem_map] at k
  obtain ⟨⟨title, surface⟩, hcontent, rfl⟩ := k
  obtain ⟨-, panel, rfl, -⟩ := hcourse.enters (Option.mem_toList.1 hcontent)
  exact ⟨_, hkeeps.item_of_stay (Book.stays_set_self ..), rfl, rfl⟩

/-! ## Runs -/

/-- At some stage of a run it was so. -/
def Once (d : Dock) (ops : List Operation) (P : Dock → Prop) : Prop :=
  ∃ early late, early ++ late = ops ∧ P (d.run early)

theorem once_now {P : Dock → Prop} {ops : List Operation} (h : P (d.run ops)) : d.Once ops P :=
  ⟨ops, [], List.append_nil _, h⟩

theorem Once.concat {P : Dock → Prop} {ops : List Operation} (h : d.Once ops P) (op : Operation) :
    d.Once (ops ++ [op]) P := by
  obtain ⟨early, late, rfl, hearly⟩ := h
  exact ⟨early, late ++ [op], (List.append_assoc ..).symm, hearly⟩

theorem Once.imp {P Q : Dock → Prop} {ops : List Operation} (h : d.Once ops P)
    (hPQ : ∀ e, P e → Q e) : d.Once ops Q := by
  obtain ⟨early, late, hops, hearly⟩ := h
  exact ⟨early, late, hops, hPQ _ hearly⟩

variable {settings : DragSettings} {ops : List Operation}

/-- What is noted after a run was a panel once. -/
theorem run_notes (k : ((new settings).run ops).Notes panel) :
    (new settings).Once ops fun e => (e.tree.panel? panel).isSome := by
  induction ops using List.reverseRecOn with
  | nil =>
      cases k with
      | active hactive =>
          obtain rfl : Tree.new.root = panel := Option.some.inj hactive
          exact once_now rfl
      | gesture hgesture => cases hgesture
  | append_singleton ops op ih =>
      obtain ⟨l, b, hkeeps⟩ := run_keeps settings ops
      rw [run_concat] at k
      rcases hkeeps.apply_notes op k with hbefore | hthere
      · exact (ih hbefore).concat op
      · refine once_now ?_
        rw [run_concat]
        exact hthere

/-- What has to be so for a command to be queued was so once, if the command has been emitted. -/
theorem run_emits {c : Command} {P : Dock → Prop}
    (hqueued : ∀ {d l b op}, d.Keeps l b → c ∈ d.queued op → P d)
    (k : c ∈ (new settings).emitted ops) : (new settings).Once ops P := by
  rw [emitted_eq] at k
  obtain ⟨x, hlog, rfl⟩ := List.mem_map.1 k
  obtain ⟨early, op, late, hops, hmem⟩ := mem_gather.1 hlog
  obtain ⟨c, hc, rfl⟩ := List.mem_map.1 hmem
  obtain ⟨l, b, hkeeps⟩ := run_keeps settings early
  exact ⟨early, op :: late, hops, hqueued hkeeps hc⟩

/-- A tab that has been opened was there once. -/
theorem run_opens {x : TabEntry} (k : x ∈ (new settings).openings ops) :
    (new settings).Once ops fun e =>
      ∃ i, e.item? x.id = some i ∧ i.title = x.title ∧ i.plugin = x.surface.plugin := by
  obtain ⟨early, op, late, hops, hopened⟩ := mem_gather.1 k
  obtain ⟨l, b, hkeeps⟩ := run_keeps settings early
  refine ⟨early ++ [op], late, by rw [← hops, List.append_assoc]; rfl, ?_⟩
  rw [run_concat]
  exact hkeeps.apply_opens hopened

end Notes

end Dock

end Docking
