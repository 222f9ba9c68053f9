import Docking.Dock.Drag

/-!
# Runs of a dock

An operation is one call of a dock with all its arguments. A run starts from a dock without a tab
and does operations one after another, in any order and with any arguments.

## Main results

* `Dock.run_induction`: what holds of a new dock and is kept by every operation holds after a run.
* `Dock.pointerUp_releases`: what a release of the pointer comes to.
-/

namespace Docking

/-- A call of a dock. -/
inductive Operation where
  | setViewport (area : Rect)
  | openTab (title : String) (surface : Surface) (activate : Bool)
  | dockNew (title : String) (surface : Surface) (target : Option DropTarget)
  | closeTab (tab : TabId)
  | activateTab (tab : TabId)
  | cycleTab (forward : Bool)
  | floatTab (tab : TabId)
  | attachWindow (tab : TabId) (window : Window)
  | moveTab (tab : TabId) (target : DropTarget)
  | dockFloating (tab : TabId) (target : Option DropTarget)
  | pointerDown (tab : TabId) (point : Point)
  | pointerMove (point : Point)
  | pointerUp
  | cancelDrag
  | externalOver (point : Point)
  | externalLeave
  | externalDrop (payload : Payload) (point : Point)
  | takeCommands

namespace Dock

/-- The dock after an operation. -/
def apply (d : Dock) : Operation → Dock
  | .setViewport area => d.setViewport area
  | .openTab title surface activate => (d.openTab title surface activate).2
  | .dockNew title surface target => (d.dockNew title surface target).2
  | .closeTab tab => d.closeTab tab
  | .activateTab tab => d.activateTab tab
  | .cycleTab forward => d.cycleTab forward
  | .floatTab tab => d.floatTab tab
  | .attachWindow tab window => (d.attachWindow tab window).2
  | .moveTab tab target => (d.moveTab tab target).2
  | .dockFloating tab target => (d.dockFloating tab target).2
  | .pointerDown tab point => d.pointerDown tab point
  | .pointerMove point => d.pointerMove point
  | .pointerUp => d.pointerUp
  | .cancelDrag => d.cancelDrag
  | .externalOver point => d.externalOver point
  | .externalLeave => d.externalLeave
  | .externalDrop payload point => d.externalDrop payload point
  | .takeCommands => d.takeCommands.2

/-- Where an operation docks a tab that was in no panel, if it docks one and is told where. -/
def docking (d : Dock) : Operation → Option DropTarget
  | .dockNew _ _ target => target
  | .dockFloating tab target => if (d.item? tab).any Item.isFloating then target else none
  | .externalDrop payload point =>
    if (payload.window.bind d.findWindow).isSome then (d.hitTest point).map Prod.fst else none
  | _ => none

/-- The dock after several operations. -/
def run (d : Dock) (ops : List Operation) : Dock := ops.foldl apply d

theorem run_append (d : Dock) (early late : List Operation) :
    d.run (early ++ late) = (d.run early).run late := List.foldl_append

theorem run_concat (d : Dock) (ops : List Operation) (op : Operation) :
    d.run (ops ++ [op]) = (d.run ops).apply op := run_append ..

/-- What holds of every new dock and is kept by every operation holds after every run. -/
theorem run_induction {motive : Dock → Prop} (hnew : ∀ settings, motive (new settings))
    (hstep : ∀ d op, motive d → motive (d.apply op)) (settings : DragSettings)
    (ops : List Operation) : motive ((new settings).run ops) := by
  have hrun : ∀ d, motive d → motive (d.run ops) := by
    induction ops with
    | nil => exact fun d hd => hd
    | cons op ops ih =>
        intro d hd
        exact ih _ (hstep d op hd)
  exact hrun _ (hnew settings)

/-- A dock that some run leads to. -/
def Reachable (d : Dock) : Prop := ∃ settings ops, (new settings).run ops = d

theorem Reachable.run {d : Dock} (h : d.Reachable) (ops : List Operation) :
    (d.run ops).Reachable := by
  obtain ⟨settings, before, rfl⟩ := h
  exact ⟨settings, before ++ ops, run_append ..⟩

/-! ## Releases of the pointer -/

/-- What a release of the pointer makes of a dock. -/
inductive Releases (d : Dock) : Dock → Prop
  | idle (hgesture : d.gesture = none) : Releases d d
  /-- There is no tab to show or to drop. -/
  | void {g : Gesture} (hgesture : d.gesture = some g) (hheld : g.kind = .tab → g.tab = none) :
      Releases d (d.dropGesture.emit .redraw)
  | click {g : Gesture} {tab : TabId} (hgesture : d.gesture = some g) (hkind : g.kind = .tab)
      (htab : g.tab = some tab) (hstill : g.dragging = false) :
      Releases d (d.dropGesture.activateTab tab)
  | off {g : Gesture} {tab : TabId} (hgesture : d.gesture = some g) (hkind : g.kind = .tab)
      (htab : g.tab = some tab) (hdrag : g.dragging = true) (htarget : g.target = none) :
      Releases d ((d.dropGesture.floatTab tab).emit .redraw)
  | drop {g : Gesture} {tab : TabId} {target : DropTarget} (hgesture : d.gesture = some g)
      (hkind : g.kind = .tab) (htab : g.tab = some tab) (hdrag : g.dragging = true)
      (htarget : g.target = some target) :
      Releases d ((d.dropGesture.moveTab tab target).2.emit .redraw)

theorem pointerUp_releases (d : Dock) : d.Releases d.pointerUp := by
  unfold pointerUp
  cases hgesture : d.gesture with
  | none => exact .idle hgesture
  | some g =>
      dsimp only
      split
      · next tab hkind htab =>
        cases hdrag : g.dragging with
        | false => exact .click hgesture hkind htab hdrag
        | true =>
            cases htarget : g.target with
            | none => exact .off hgesture hkind htab hdrag htarget
            | some target => exact .drop hgesture hkind htab hdrag htarget
      · next hheld =>
        refine .void hgesture fun hkind => ?_
        cases htab : g.tab with
        | none => rfl
        | some tab => exact absurd htab (hheld tab hkind)

end Dock

end Docking
