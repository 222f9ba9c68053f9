import Docking.Proofs.Dock.Gestures

/-!
# The gesture in flight

Tabs and detached windows are dragged through one place in the dock, and tabs may be opened, closed
and moved in the meantime. After every run that place is empty or holds one gesture that makes
sense: before a drag begins there is no target, and the hint that is shown is the one of the target.
The two kinds of gesture do not get into each other's way: what the window system reports does not
reach a pressed tab, and the moves of the pointer do not reach a detached window.

## Main definitions

* `Gesture.Formed`: a gesture that makes sense.
* `Gesture.ignores`: the operations that leave a gesture as it is.

## Main results

* `gesture_apply`: operations on tabs do not touch the gesture.
* `apply_poised`: every operation leaves a gesture that makes sense.
* `apply_ignored`: every operation that a gesture ignores leaves it as it is.
* `run_inFlight`: both after a run.
-/

namespace Docking

/-- Whether an operation is an event of a gesture. -/
def Operation.steers : Operation → Bool
  | .pointerDown .. | .pointerMove _ | .pointerUp | .cancelDrag
  | .externalOver _ | .externalLeave | .externalDrop .. => true
  | _ => false

namespace Gesture

/-- A gesture that makes sense. -/
structure Formed (g : Gesture) : Prop where
  /-- It holds a tab with the panel of the press, or a detached window, which has neither and is
  always dragged. -/
  held : (∃ tab source, g.kind = .tab ∧ g.tab = some tab ∧ g.source = some source) ∨
    g.kind = .external ∧ g.tab = none ∧ g.source = none ∧ g.dragging
  /-- Nothing is aimed at before the drag has begun. -/
  still : g.dragging = false → g.target = none
  /-- There is a hint exactly if there is a target. -/
  shown : g.indicator.isSome = g.target.isSome
  /-- The hint is the one of the target's zone. -/
  hint : ∀ target, g.target = some target → ∃ area, g.indicator = some (.ofZone area target.zone)

/-- Whether an operation leaves a gesture as it is: operations on tabs always, those of the window
system and another press for a tab, and the moves of the pointer for a detached window. -/
def ignores (g : Gesture) : Operation → Bool
  | .pointerDown .. | .externalOver _ | .externalLeave | .externalDrop .. => !g.isExternal
  | .pointerMove _ => g.isExternal
  | .pointerUp | .cancelDrag => false
  | _ => true

theorem formed_press (tab : TabId) (source : NodeId) (point : Point) :
    (press tab source point).Formed where
  held := .inl ⟨tab, source, rfl, rfl, rfl⟩
  still _ := rfl
  shown := rfl
  hint := nofun

theorem formed_enter (point : Point) : (enter point).Formed where
  held := .inr ⟨rfl, rfl, rfl, rfl⟩
  still _ := rfl
  shown := rfl
  hint := nofun

/-- A gesture that makes sense still does when the pointer has moved. -/
theorem Formed.follow {g : Gesture} (h : g.Formed) (point : Point) :
    { g with pointer := point }.Formed :=
  ⟨h.held, h.still, h.shown, h.hint⟩

/-- A gesture that makes sense becomes a drag, and aims at what is found. -/
theorem Formed.aim {g : Gesture} (h : g.Formed) (found : Option (DropTarget × Rect)) :
    ({ g with dragging := true }.aim found).Formed := by
  have hheld := h.held.imp_right fun ⟨hkind, htab, hsource, _⟩ =>
    show _ ∧ _ ∧ _ ∧ true = true from ⟨hkind, htab, hsource, rfl⟩
  cases found with
  | none => exact ⟨hheld, fun _ => rfl, rfl, nofun⟩
  | some x =>
      refine ⟨hheld, nofun, rfl, fun target htarget => ⟨x.2, ?_⟩⟩
      cases htarget
      rfl

theorem Formed.dragging_of_external {g : Gesture} (h : g.Formed) (hexternal : g.isExternal) :
    g.dragging = true := by
  have hkind : g.kind = .external := of_decide_eq_true hexternal
  rcases h.held with ⟨_, _, htab, -⟩ | ⟨-, -, -, hdrag⟩
  · rw [hkind] at htab
    cases htab
  · exact hdrag

theorem Formed.indicator_eq_none {g : Gesture} (h : g.Formed) (hstill : g.dragging = false) :
    g.indicator = none := by
  have hshown := h.shown
  rwa [h.still hstill, Option.isSome_none, Option.isSome_eq_false_iff,
    Option.isNone_iff_eq_none] at hshown

end Gesture

namespace Dock

/-- What is in flight makes sense. -/
def Poised (d : Dock) : Prop := ∀ g, d.gesture = some g → g.Formed

section InFlight

variable {d : Dock} {g : Gesture}

theorem poised_of_none (h : d.gesture = none) : d.Poised := by
  intro g hg
  rw [h] at hg
  cases hg

/-! ## Operations on tabs -/

private theorem gesture_of_amid (f : Dock → Dock)
    (hf : ∀ d g cs, f (d.amid g cs) = (f d).amid g cs) (d : Dock) :
    (f d).gesture = d.gesture :=
  (calm_congr f hf (d := d) rfl).1

theorem gesture_activateTab (d : Dock) (tab : TabId) : (d.activateTab tab).gesture = d.gesture :=
  gesture_of_amid (activateTab · tab) (fun d g cs => activateTab_amid d g cs tab) d

theorem gesture_floatTab (d : Dock) (tab : TabId) : (d.floatTab tab).gesture = d.gesture :=
  gesture_of_amid (floatTab · tab) (fun d g cs => floatTab_amid d g cs tab) d

theorem gesture_moveTab (d : Dock) (tab : TabId) (target : DropTarget) :
    (d.moveTab tab target).2.gesture = d.gesture :=
  gesture_of_amid (fun d => (d.moveTab tab target).2)
    (fun d g cs => congrArg Prod.snd (moveTab_amid d g cs tab target)) d

theorem gesture_register (d : Dock) (title : String) (surface : Surface)
    (target : Option DropTarget) (activate : Bool) :
    (d.register title surface target activate).2.gesture = d.gesture :=
  gesture_of_amid (fun d => (d.register title surface target activate).2)
    (fun d g cs => congrArg Prod.snd (register_amid d g cs title surface target activate)) d

theorem gesture_dockFloating (d : Dock) (tab : TabId) (target : Option DropTarget) :
    (d.dockFloating tab target).2.gesture = d.gesture :=
  gesture_of_amid (fun d => (d.dockFloating tab target).2)
    (fun d g cs => congrArg Prod.snd (dockFloating_amid d g cs tab target)) d

/-- Operations on tabs do not touch the gesture, and neither does taking commands away. -/
theorem gesture_apply (d : Dock) {op : Operation} (hop : op.steers = false) :
    (d.apply op).gesture = d.gesture := by
  cases op with
  | setViewport area => rfl
  | openTab title surface activate => exact gesture_register d title surface none activate
  | dockNew title surface target => exact gesture_register d title surface target true
  | closeTab tab =>
      exact gesture_of_amid (closeTab · tab) (fun d g cs => closeTab_amid d g cs tab) d
  | activateTab tab => exact gesture_activateTab d tab
  | cycleTab forward =>
      exact gesture_of_amid (cycleTab · forward) (fun d g cs => cycleTab_amid d g cs forward) d
  | floatTab tab => exact gesture_floatTab d tab
  | attachWindow tab window =>
      exact gesture_of_amid (fun d => (d.attachWindow tab window).2)
        (fun d g cs => congrArg Prod.snd (attachWindow_amid d g cs tab window)) d
  | moveTab tab target => exact gesture_moveTab d tab target
  | dockFloating tab target => exact gesture_dockFloating d tab target
  | takeCommands => rfl
  | pointerDown | pointerMove | pointerUp | cancelDrag => cases hop
  | externalOver | externalLeave | externalDrop => cases hop

/-! ## Events of a gesture -/

/-- A release ends the gesture in every case. -/
theorem gesture_pointerUp (d : Dock) : d.pointerUp.gesture = none := by
  have hrelease := pointerUp_releases d
  generalize d.pointerUp = e at hrelease
  cases hrelease with
  | idle hgesture => exact hgesture
  | void => rfl
  | click => exact gesture_activateTab d.dropGesture _
  | off => exact gesture_floatTab d.dropGesture _
  | drop => exact gesture_moveTab d.dropGesture _ _

theorem gesture_cancelDrag (d : Dock) : d.cancelDrag.gesture = none := by
  unfold cancelDrag
  split
  · rfl
  · next hnone => exact Option.not_isSome_iff_eq_none.1 hnone

/-- What is left of the gesture when a detached window is not over the dock any more. -/
def gestureWithoutWindow (d : Dock) : Option Gesture := if d.externalDrag then none else d.gesture

theorem gesture_externalLeave (d : Dock) : d.externalLeave.gesture = d.gestureWithoutWindow := by
  unfold externalLeave gestureWithoutWindow
  split <;> rfl

theorem gesture_dropWindow (d : Dock) (payload : Payload) (shown : Option TabId) (point : Point) :
    (d.dropWindow payload shown point).gesture = d.gestureWithoutWindow := by
  have hclose : ∀ e : Dock,
      (payload.window.elim e fun w => e.emit (.closeWindow w)).gesture = e.gesture := by
    intro e
    cases payload.window with
    | none => rfl
    | some w => rfl
  unfold dropWindow gestureWithoutWindow
  split
  · refine (hclose _).trans ?_
    split
    · exact gesture_dockFloating d.dropGesture _ _
    · rfl
  · refine (hclose _).trans ?_
    split
    · exact gesture_dockFloating d _ _
    · rfl

theorem Poised.withoutWindow (h : d.Poised) (hg : d.gestureWithoutWindow = some g) :
    g.Formed := by
  unfold gestureWithoutWindow at hg
  split at hg
  · cases hg
  · exact h g hg

theorem Poised.press (h : d.Poised) (tab : TabId) (point : Point) : (d.press tab point).Poised := by
  unfold Dock.press
  split
  · exact h
  · intro g hg
    cases hg
    exact Gesture.formed_press ..

theorem Poised.pointerDown (h : d.Poised) (tab : TabId) (point : Point) :
    (d.pointerDown tab point).Poised := by
  unfold Dock.pointerDown
  split
  · exact h.press tab point
  · split
    · have hdropped : (d.dropGesture.emit .redraw).Poised := poised_of_none rfl
      exact hdropped.press tab point
    · exact h

theorem Poised.pointerMove (h : d.Poised) (point : Point) : (d.pointerMove point).Poised := by
  unfold Dock.pointerMove
  split
  · exact h
  · next g hgesture =>
    split
    · exact h
    · dsimp only
      split
      · intro g' hg'
        cases hg'
        exact ((h g hgesture).follow point).aim _
      · intro g' hg'
        cases hg'
        exact (h g hgesture).follow point

theorem Poised.externalOver (h : d.Poised) (point : Point) : (d.externalOver point).Poised := by
  unfold Dock.externalOver
  dsimp only
  split
  · intro g hg
    cases hg
    exact (Gesture.formed_enter point).aim _
  · next g hgesture =>
    split
    · next hexternal =>
      have hdrag := (h g hgesture).dragging_of_external hexternal
      have haimed := ((h g hgesture).follow point).aim (d.hitTest point)
      intro g' hg'
      cases hg'
      rwa [← hdrag] at haimed
    · exact h

/-! ## Runs -/

/-- Every operation leaves a gesture that makes sense. -/
theorem apply_poised (h : d.Poised) (op : Operation) : (d.apply op).Poised := by
  by_cases hop : op.steers = false
  · intro g hg
    rw [gesture_apply d hop] at hg
    exact h g hg
  · cases op with
    | pointerDown tab point => exact h.pointerDown tab point
    | pointerMove point => exact h.pointerMove point
    | pointerUp => exact poised_of_none (gesture_pointerUp d)
    | cancelDrag => exact poised_of_none (gesture_cancelDrag d)
    | externalOver point => exact h.externalOver point
    | externalLeave => exact fun g hg => h.withoutWindow (d.gesture_externalLeave ▸ hg)
    | externalDrop payload point =>
        exact fun g hg => h.withoutWindow (d.gesture_dropWindow payload _ point ▸ hg)
    | _ => exact absurd rfl hop

theorem run_poised (settings : DragSettings) (ops : List Operation) :
    ((new settings).run ops).Poised :=
  run_induction (fun _ => poised_of_none rfl) (fun _ op h => apply_poised h op) settings ops

theorem gestureWithoutWindow_eq (hgesture : d.gesture = some g) (htab : g.isExternal = false) :
    d.gestureWithoutWindow = some g := by
  have hdrag : d.externalDrag = false := by rw [externalDrag, hgesture, Option.any_some, htab]
  rw [gestureWithoutWindow, hdrag, if_neg Bool.false_ne_true, hgesture]

/-- Every operation that a gesture ignores leaves it as it is. -/
theorem apply_ignored (hgesture : d.gesture = some g) {op : Operation} (hop : g.ignores op) :
    (d.apply op).gesture = some g := by
  have htab : (!g.isExternal) = true → g.isExternal = false := (Bool.not_eq_true' _).mp
  by_cases hsteers : op.steers = false
  · rw [gesture_apply d hsteers, hgesture]
  · cases op with
    | pointerDown tab point =>
        have hsame : d.pointerDown tab point = d := by
          simp only [pointerDown, hgesture, htab hop, Bool.false_eq_true, if_false]
        rw [apply, hsame, hgesture]
    | pointerMove point =>
        have hkind : g.kind = .external := of_decide_eq_true hop
        have hsame : d.pointerMove point = d := by simp only [pointerMove, hgesture, hkind]
        rw [apply, hsame, hgesture]
    | externalOver point =>
        have hsame : d.externalOver point = d := by
          simp only [externalOver, hgesture, htab hop, Bool.false_eq_true, if_false]
        rw [apply, hsame, hgesture]
    | externalLeave =>
        exact d.gesture_externalLeave.trans (gestureWithoutWindow_eq hgesture (htab hop))
    | externalDrop payload point =>
        exact (d.gesture_dropWindow payload _ point).trans
          (gestureWithoutWindow_eq hgesture (htab hop))
    | pointerUp | cancelDrag => cases hop
    | _ => exact absurd rfl hsteers

/-- After every run, a gesture that is in flight makes sense, and what it ignores leaves it as it
is: nothing that is reported of detached windows changes a gesture with a tab, whatever is dropped,
and neither does another press; and the pointer does not move a gesture with a window. -/
theorem run_inFlight (settings : DragSettings) (ops : List Operation)
    (hgesture : ((new settings).run ops).gesture = some g) :
    g.Formed ∧ (∀ op, g.ignores op → (((new settings).run ops).apply op).gesture = some g) ∧
      (g.isExternal = false → ∀ mime data point,
        (((new settings).run ops).receive (.drop mime data point)).gesture = some g) := by
  refine ⟨run_poised settings ops g hgesture, fun op hop => apply_ignored hgesture hop, ?_⟩
  intro htab mime data point
  have hleave : (((new settings).run ops).apply .externalLeave).gesture = some g :=
    apply_ignored hgesture (by simp [Gesture.ignores, htab])
  simp only [receive]
  -- a drop that can not be read counts as a window that has left
  split
  · split
    · next payload _ =>
      have hdrop : g.ignores (.externalDrop payload point) := by simp [Gesture.ignores, htab]
      exact apply_ignored hgesture hdrop
    · exact hleave
  · exact hleave

/-- The first of two tabs is dragged over the right edge of their panel. -/
def overEdge : List Operation := [
  .setViewport (.atOrigin 100 100),
  .openTab "A" ⟨⟨1⟩, "p"⟩ true,
  .openTab "B" ⟨⟨2⟩, "p"⟩ true,
  .pointerDown ⟨1⟩ ⟨10, 10⟩,
  .pointerMove ⟨95, 50⟩]

/-- A drop of a window and a press of the other tab do not change the drag. -/
theorem overEdge_inFlight :
    let d := (new .standard).run overEdge
    let g : Gesture := ⟨.tab, some ⟨1⟩, some ⟨1⟩, ⟨10, 10⟩, ⟨95, 50⟩, true,
      some ⟨⟨1⟩, .right⟩, some (.ofZone (.atOrigin 100 100) .right)⟩
    d.gesture = some g ∧ g.Formed ∧
      (d.apply (.externalDrop ⟨"p", none⟩ ⟨95, 50⟩)).gesture = some g ∧
      (d.apply (.pointerDown ⟨2⟩ ⟨20, 10⟩)).gesture = some g := by
  intro d g
  have hgesture : d.gesture = some g := by decide +kernel
  obtain ⟨hformed, hignored, -⟩ := run_inFlight .standard overEdge hgesture
  exact ⟨hgesture, hformed, hignored _ rfl, hignored _ rfl⟩

end InFlight

end Dock

end Docking
