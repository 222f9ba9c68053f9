import Docking.Proofs.Dock.InFlight
import Docking.Proofs.Shell.Calls

/-!
# Repaints

What the user sees of a dock is its layout, with the areas and the tabs of the panels, and the hint
of the gesture that is going on. Whatever changes either of them asks for a repaint. For most
operations this is so because they end with one; the others are shown to leave what is seen as it
is.

## Main definitions

* `Dock.sight`: what is seen of a dock.
* `Dock.Repaints`: an operation has asked for a repaint, or nothing has changed that is seen.

## Main results

* `apply_repaints`: every operation.
* `run_repaints`: operations and messages after a run.
-/

namespace Docking

namespace Command

theorem anyNeedsRedraw_eq (cs : List Command) : anyNeedsRedraw cs = cs.any needsRedraw := by
  induction cs with
  | nil => rfl
  | cons c cs ih => rw [anyNeedsRedraw, ih, List.any_cons]

/-- Several commands as one ask for a repaint if one of them does. -/
theorem any_batch?_needsRedraw (cs : List Command) :
    (batch? cs).any needsRedraw = cs.any needsRedraw := by
  have hfilter : (cs.filter fun c => !c.isNothing).any needsRedraw = cs.any needsRedraw := by
    rw [List.any_filter]
    congr 1
    funext c
    cases c <;> simp [isNothing, needsRedraw]
  rw [← hfilter, batch?]
  cases cs.filter fun c => !c.isNothing with
  | nil => rfl
  | cons c rest =>
      cases rest with
      | nil => rw [List.any_cons, List.any_nil, Bool.or_false, Option.any_some]
      | cons c' rest => rw [Option.any_some, needsRedraw, anyNeedsRedraw_eq]

end Command

namespace Dock

/-- What is seen of a dock: the layout and the hint. -/
def sight (d : Dock) : Option Snapshot × Option Indicator := (d.tree.snapshot?, d.indicator?)

/-- Between `d` and `e` a repaint was asked for, or nothing has changed that is seen. -/
def Repaints (d e : Dock) : Prop :=
  ∃ more, Queues d e more ∧ (.redraw ∈ more ∨ e.tree = d.tree ∧ e.indicator? = d.indicator?)

section Repaints

variable {d e : Dock} {more : List Command}

theorem queues_self (d : Dock) : Queues d d [] := (List.append_nil _).symm

theorem repaints_self (d : Dock) : Repaints d d := ⟨[], queues_self d, .inr ⟨rfl, rfl⟩⟩

theorem Queues.repaints_redraw (h : Queues d e more) : Repaints d (e.emit .redraw) :=
  ⟨more ++ [.redraw], h.trans (queues_emit ..), .inl List.mem_concat_self⟩

theorem Queues.repaints_finish (h : Queues d e more) : Repaints d e.finish :=
  ⟨more ++ [.redraw], h.trans (queues_finish _), .inl List.mem_concat_self⟩

/-- A repaint at the end is enough, whatever has happened before. -/
theorem Repaints.redraw (h : Repaints d e) : Repaints d (e.emit .redraw) := by
  obtain ⟨more, hmore, -⟩ := h
  exact hmore.repaints_redraw

/-- Where a repaint follows, the gesture may have ended before. -/
theorem Repaints.redraw_dropGesture (h : Repaints d.dropGesture e) :
    Repaints d (e.emit .redraw) := by
  obtain ⟨more, hmore, -⟩ := h
  exact Queues.repaints_redraw (d := d) hmore

theorem Repaints.sight_eq (h : Repaints d e) :
    (∃ more, Queues d e more ∧ .redraw ∈ more) ∨ e.sight = d.sight := by
  obtain ⟨more, hmore, hredraw | ⟨htree, hindicator⟩⟩ := h
  · exact .inl ⟨more, hmore, hredraw⟩
  · exact .inr (by rw [sight, sight, htree, hindicator])

/-! ## Operations on tabs -/

theorem queues_placeEntry (d : Dock) (entry : TabEntry) (target : Option DropTarget)
    (activate : Bool) : ∃ more, Queues d (d.placeEntry entry target activate).2 more := by
  rcases queues_putEntry d entry target activate with h | ⟨s, h⟩
  · exact ⟨_, h.trans (queues_emit ..)⟩
  · exact ⟨_, h.trans (queues_emit ..)⟩

theorem queues_detach {tab : TabId} {panel : NodeId} {entry : TabEntry}
    (h : d.detach tab panel = (some entry, e)) : Queues d e [.unmount entry.surface.id] := by
  obtain ⟨q, rfl⟩ := eq_of_detach_some h
  rfl

theorem repaints_setViewport (d : Dock) (area : Rect) : Repaints d (d.setViewport area) :=
  Queues.repaints_redraw (e := { d with tree := d.tree.computeLayout area }) (queues_self d)

theorem repaints_register (d : Dock) (title : String) (surface : Surface)
    (target : Option DropTarget) (activate : Bool) :
    Repaints d (d.register title surface target activate).2 := by
  obtain ⟨panel, h | ⟨s, h⟩⟩ := queues_register d title surface target activate
  · exact ⟨_, h, .inl (by simp)⟩
  · exact ⟨_, h, .inl (by simp)⟩

theorem Parts.repaints (h : d.Parts e) : Repaints d e := by
  cases h with
  | nothing => exact repaints_self d
  | @leaves tab panel entry f hdetach items c =>
      have hleft : Queues d f [.unmount entry.surface.id] := queues_detach hdetach
      have hrest : Queues f ({ f with items }.emit c) [c] := queues_emit ..
      exact (hleft.trans hrest).repaints_finish
  | beside items cmds =>
      have hqueued : Queues d { d with items, outbox := d.outbox ++ cmds } cmds := rfl
      exact hqueued.repaints_finish

theorem Presents.repaints (h : d.Presents e) : Repaints d e := by
  cases h with
  | nothing => exact repaints_self d
  | tab => exact Queues.repaints_redraw (d := d) (queues_self d)
  | window => exact ⟨_, queues_emit .., .inr ⟨rfl, rfl⟩⟩

theorem repaints_attachWindow (d : Dock) (tab : TabId) (window : Window) :
    Repaints d (d.attachWindow tab window).2 := by
  unfold attachWindow
  split
  · exact ⟨[], queues_self d, .inr ⟨rfl, rfl⟩⟩
  · exact ⟨_, queues_emit .., .inr ⟨rfl, rfl⟩⟩

theorem repaints_moveTab (d : Dock) (tab : TabId) (target : DropTarget) :
    Repaints d (d.moveTab tab target).2 := by
  unfold moveTab
  split
  · split
    · exact repaints_self d
    · split
      · next hdetach =>
        rw [eq_of_detach_none hdetach]
        exact repaints_self d
      · next entry e hdetach =>
        obtain ⟨more, hplace⟩ := queues_placeEntry e entry (some target) true
        exact Queues.repaints_finish ((queues_detach hdetach).trans hplace)
  · exact repaints_self d

theorem repaints_dockFloating (d : Dock) (tab : TabId) (target : Option DropTarget) :
    Repaints d (d.dockFloating tab target).2 := by
  unfold dockFloating
  split
  · exact repaints_self d
  · dsimp only
    split
    · exact ⟨[], (List.append_nil _).symm, .inr ⟨rfl, rfl⟩⟩
    · next i _ _ _ surface _ =>
      obtain ⟨more, hplace⟩ := queues_placeEntry { d with items := d.items.erase tab }
        ⟨tab, i.title, surface⟩ target true
      exact Queues.repaints_finish (d := d) hplace

/-! ## Gestures -/

/-- A press shows no hint yet, and before it none is shown. -/
theorem repaints_press (hidle : d.gesture = none) (tab : TabId) (point : Point) :
    Repaints d (d.press tab point) := by
  unfold press
  split
  · exact repaints_self d
  · refine ⟨[], queues_self d, .inr ⟨rfl, ?_⟩⟩
    rw [indicator?, indicator?, hidle]
    rfl

theorem repaints_pointerDown (d : Dock) (tab : TabId) (point : Point) :
    Repaints d (d.pointerDown tab point) := by
  unfold pointerDown
  split
  · next hidle => exact repaints_press hidle tab point
  · split
    · -- the hint of the window that has left goes with a repaint
      unfold press
      split
      · exact Queues.repaints_redraw (queues_self d)
      · exact ⟨[.redraw], rfl, .inl List.mem_cons_self⟩
    · exact repaints_self d

theorem repaints_pointerMove (d : Dock) (point : Point) : Repaints d (d.pointerMove point) := by
  unfold pointerMove
  split
  · exact repaints_self d
  · next g hgesture =>
    split
    · exact repaints_self d
    · dsimp only
      split
      · exact Queues.repaints_redraw (d := d) (queues_self d)
      · refine ⟨[], queues_self d, .inr ⟨rfl, ?_⟩⟩
        rw [indicator?, indicator?, hgesture]
        rfl

/-- A click ends a gesture that shows no hint. -/
theorem repaints_pointerUp (h : d.Poised) : Repaints d d.pointerUp := by
  have hrelease := pointerUp_releases d
  generalize d.pointerUp = e at hrelease
  cases hrelease with
  | idle => exact repaints_self d
  | void => exact Queues.repaints_redraw (queues_self d)
  | @click g tab hgesture _ _ hstill =>
      have hindicator : d.dropGesture.indicator? = d.indicator? := by
        have hnone := (h g hgesture).indicator_eq_none hstill
        rw [indicator?, indicator?, hgesture]
        exact hnone.symm
      obtain ⟨more, hmore, hseen⟩ := (activateTab_presents d.dropGesture tab).repaints
      rw [hindicator] at hseen
      exact ⟨more, hmore, hseen⟩
  | off => exact (floatTab_parts d.dropGesture _).repaints.redraw_dropGesture
  | drop => exact (repaints_moveTab d.dropGesture _ _).redraw_dropGesture

theorem repaints_cancelDrag (d : Dock) : Repaints d d.cancelDrag := by
  unfold cancelDrag
  split
  · exact Queues.repaints_redraw (queues_self d)
  · exact repaints_self d

theorem repaints_externalOver (d : Dock) (point : Point) : Repaints d (d.externalOver point) := by
  unfold externalOver
  dsimp only
  split
  · exact Queues.repaints_redraw (d := d) (queues_self d)
  · split
    · exact Queues.repaints_redraw (d := d) (queues_self d)
    · exact repaints_self d

theorem repaints_externalLeave (d : Dock) : Repaints d d.externalLeave := by
  unfold externalLeave
  split
  · exact Queues.repaints_redraw (queues_self d)
  · exact repaints_self d

theorem repaints_dropWindow (d : Dock) (payload : Payload) (shown : Option TabId)
    (point : Point) : Repaints d (d.dropWindow payload shown point) := by
  -- the gesture that is ended is not looked at by what follows
  obtain ⟨e, he, hsame⟩ : ∃ e, (if d.externalDrag then d.dropGesture else d) = e ∧
      e.outbox = d.outbox := by
    split
    · exact ⟨_, rfl, rfl⟩
    · exact ⟨_, rfl, rfl⟩
  have hclose : ∀ {f : Dock} {more : List Command}, Queues e f more →
      ∃ more, Queues d (payload.window.elim f fun w => f.emit (.closeWindow w)) more := by
    intro f more hmore
    have hmore : Queues d f more := by rw [Queues, hmore, hsame]
    cases payload.window with
    | none => exact ⟨more, hmore⟩
    | some w => exact ⟨_, hmore.trans (queues_emit ..)⟩
  unfold dropWindow
  rw [he]
  dsimp only
  split
  · next tab =>
    obtain ⟨more, hmore, -⟩ := repaints_dockFloating e tab ((e.hitTest point).map Prod.fst)
    obtain ⟨all, hall⟩ := hclose hmore
    exact hall.repaints_redraw
  · obtain ⟨all, hall⟩ := hclose (queues_emit ..)
    exact hall.repaints_redraw

/-! ## Runs -/

/-- Every operation that does not take commands away asks for a repaint if it changes what is
seen. -/
theorem apply_repaints {l : Layout} (hl : d.tree.Holds l) (h : d.Poised) {op : Operation}
    (hop : op ≠ .takeCommands) : Repaints d (d.apply op) := by
  cases op with
  | setViewport area => exact repaints_setViewport d area
  | openTab title surface activate => exact repaints_register d title surface none activate
  | dockNew title surface target => exact repaints_register d title surface target true
  | closeTab tab => exact (closeTab_parts d tab).repaints
  | activateTab tab => exact (activateTab_presents d tab).repaints
  | cycleTab forward => exact (cycleTab_presents hl forward).repaints
  | floatTab tab => exact (floatTab_parts d tab).repaints
  | attachWindow tab window => exact repaints_attachWindow d tab window
  | moveTab tab target => exact repaints_moveTab d tab target
  | dockFloating tab target => exact repaints_dockFloating d tab target
  | pointerDown tab point => exact repaints_pointerDown d tab point
  | pointerMove point => exact repaints_pointerMove d point
  | pointerUp => exact repaints_pointerUp h
  | cancelDrag => exact repaints_cancelDrag d
  | externalOver point => exact repaints_externalOver d point
  | externalLeave => exact repaints_externalLeave d
  | externalDrop payload point => exact repaints_dropWindow d payload _ point
  | takeCommands => exact absurd rfl hop

theorem redraw_mem_queued {l : Layout} (hl : d.tree.Holds l) (h : d.Poised) {op : Operation}
    (hsight : (d.apply op).sight ≠ d.sight) : .redraw ∈ d.queued op := by
  have hop : op ≠ .takeCommands := by
    rintro rfl
    exact hsight rfl
  rcases (apply_repaints hl h hop).sight_eq with ⟨more, hmore, hredraw⟩ | hsame
  · rwa [hmore.queued_eq]
  · exact absurd hsame hsight

/-- After every run, an operation that changes the layout or the hint queues a command that asks for
a repaint, and a message that changes them hands out one that does. -/
theorem run_repaints (settings : DragSettings) (ops : List Operation) :
    let d := (new settings).run ops
    (∀ op, (d.apply op).sight ≠ d.sight → ∃ c ∈ d.queued op, c.needsRedraw) ∧
      ∀ m, (d.handle m).2.sight ≠ d.sight → ∃ c, (d.handle m).1 = some c ∧ c.needsRedraw := by
  intro d
  obtain ⟨l, hl⟩ := run_sound settings ops
  have hqueued : ∀ op, (d.apply op).sight ≠ d.sight → .redraw ∈ d.queued op :=
    fun op hsight => redraw_mem_queued hl.holds (run_poised settings ops) hsight
  refine ⟨fun op hsight => ⟨.redraw, hqueued op hsight, rfl⟩, fun m hsight => ?_⟩
  have hsight : (d.receive m).sight ≠ d.sight := hsight
  have hredraw : .redraw ∈ (d.receive m).outbox := by
    rcases Shell.receive_cases m with ⟨op, hreceive, -⟩ | ⟨plugin, rfl⟩
    · rw [hreceive] at hsight ⊢
      exact List.mem_of_mem_drop (hqueued op hsight)
    · exact absurd rfl hsight
  have hany : (d.receive m).outbox.any Command.needsRedraw :=
    List.any_eq_true.2 ⟨.redraw, hredraw, rfl⟩
  rw [← Command.any_batch?_needsRedraw] at hany
  exact (Option.any_eq_true _ _).1 hany

/-- To move one of two tabs beside the other changes the layout, and asks for a repaint. -/
theorem twoTabs_repaints :
    let d := twoTabs
    (d.apply (.moveTab ⟨1⟩ ⟨⟨1⟩, .right⟩)).sight ≠ d.sight ∧
      (∃ c ∈ d.queued (.moveTab ⟨1⟩ ⟨⟨1⟩, .right⟩), c.needsRedraw) ∧
      ∃ c, (d.handle (.move ⟨1⟩ ⟨⟨1⟩, .right⟩)).1 = some c ∧ c.needsRedraw := by
  intro d
  have hsight : (d.apply (.moveTab ⟨1⟩ ⟨⟨1⟩, .right⟩)).sight ≠ d.sight := by
    intro hsame
    -- a split is at the top then
    have htop := congrArg (fun s => s.1.map Snapshot.id) hsame
    exact absurd htop (by decide +kernel)
  have hmove : ∀ e : Dock, (e.handle (.move ⟨1⟩ ⟨⟨1⟩, .right⟩)).2.sight =
      (e.apply (.moveTab ⟨1⟩ ⟨⟨1⟩, .right⟩)).sight := fun _ => rfl
  obtain ⟨hop, hm⟩ := run_repaints .standard _
  refine ⟨hsight, hop _ hsight, hm (.move ⟨1⟩ ⟨⟨1⟩, .right⟩) ?_⟩
  rw [hmove]
  exact hsight

end Repaints

end Dock

end Docking
