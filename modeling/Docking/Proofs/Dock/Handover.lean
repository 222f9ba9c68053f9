import Docking.Command.Weight
import Docking.Dock.Handle
import Docking.Proofs.Dock.Frame

/-!
# Handing out commands

A dock may have commands in its queue when a message comes, from operations that it was called to do
before. Whatever the message is, these commands are handed out first, in their order, and then those
that the message itself leads to. What is queued has no say in what the message does: neither the
commands that it leads to nor the dock that it leaves depend on the queue.

## Main definitions

* `Dock.behind`: the dock with earlier commands in front of its queue.
* `Dock.withQueue`: the dock with another queue.
* `Dock.handleAll`: one message handled after the other.

## Main results

* `receive_behind`: what any message does stays behind what is queued already.
* `handle_withQueue`: the commands that are handed out, and the dock that is left.
* `handleAll_eq_receiveAll`: it makes no difference when commands are handed out.
-/

namespace Docking

namespace Dock

/-- The dock with earlier commands in front of its queue. -/
def behind (d : Dock) (earlier : List Command) : Dock :=
  { d with outbox := earlier ++ d.outbox }

/-- The dock with another queue. -/
def withQueue (d : Dock) (queue : List Command) : Dock := { d with outbox := queue }

section Behind

variable (d : Dock) (cs : List Command)

theorem behind_eq_amid : d.behind cs = d.amid d.gesture cs := rfl

theorem emit_behind (c : Command) : (d.behind cs).emit c = (d.emit c).behind cs :=
  emit_amid d d.gesture cs c

theorem hold_behind (g : Option Gesture) :
    { d.behind cs with gesture := g }.emit .redraw =
      ({ d with gesture := g }.emit .redraw).behind cs :=
  emit_behind { d with gesture := g } cs .redraw

/-- An operation that looks at neither the gesture nor the queue adds to the end of the queue. -/
theorem behind_of_amid (f : Dock → Dock) (hf : ∀ d g cs, f (d.amid g cs) = (f d).amid g cs) :
    f (d.behind cs) = (f d).behind cs := by
  have hgesture : (f d).gesture = d.gesture := (calm_congr f hf (Eq.refl d.calm)).1
  rw [behind_eq_amid, hf, behind_eq_amid, hgesture]

/-! ## Operations that have a result -/

theorem moveTab_behind (tab : TabId) (target : DropTarget) :
    ((d.behind cs).moveTab tab target).2 = (d.moveTab tab target).2.behind cs :=
  behind_of_amid d cs (fun d => (d.moveTab tab target).2) fun d g cs =>
    congrArg Prod.snd (moveTab_amid d g cs tab target)

theorem attachWindow_behind (tab : TabId) (window : Window) :
    ((d.behind cs).attachWindow tab window).2 = (d.attachWindow tab window).2.behind cs :=
  behind_of_amid d cs (fun d => (d.attachWindow tab window).2) fun d g cs =>
    congrArg Prod.snd (attachWindow_amid d g cs tab window)

theorem dockFloating_behind (tab : TabId) (target : Option DropTarget) :
    ((d.behind cs).dockFloating tab target).2 = (d.dockFloating tab target).2.behind cs :=
  behind_of_amid d cs (fun d => (d.dockFloating tab target).2) fun d g cs =>
    congrArg Prod.snd (dockFloating_amid d g cs tab target)

/-! ## Gestures -/

@[simp] theorem gesture_behind : (d.behind cs).gesture = d.gesture := rfl

theorem dropGesture_behind : (d.behind cs).dropGesture = d.dropGesture.behind cs := rfl

theorem press_behind (tab : TabId) (point : Point) :
    (d.behind cs).press tab point = (d.press tab point).behind cs := by
  unfold press
  rw [show (d.behind cs).panelOf? tab = d.panelOf? tab from rfl]
  cases d.panelOf? tab with
  | none => rfl
  | some panel => rfl

theorem pointerDown_behind (tab : TabId) (point : Point) :
    (d.behind cs).pointerDown tab point = (d.pointerDown tab point).behind cs := by
  unfold pointerDown
  rw [gesture_behind]
  cases d.gesture with
  | none => exact press_behind d cs tab point
  | some g =>
      cases hexternal : g.isExternal with
      | false => simp only [hexternal, Bool.false_eq_true, if_false]
      | true =>
          simp only [hexternal, if_true, dropGesture_behind, emit_behind]
          exact press_behind _ cs tab point

theorem pointerMove_behind (point : Point) :
    (d.behind cs).pointerMove point = (d.pointerMove point).behind cs := by
  unfold pointerMove
  rw [gesture_behind, show (d.behind cs).settings = d.settings from rfl,
    show (d.behind cs).hitTest point = d.hitTest point from rfl]
  cases d.gesture with
  | none => rfl
  | some g =>
      cases hkind : g.kind with
      | external => simp only [hkind]
      | tab =>
          simp only [hkind]
          -- the pointer is noted in any case, and beyond the threshold a repaint is queued
          cases g.dragging || point.exceeds g.origin d.settings.threshold with
          | false => rfl
          | true => exact hold_behind d cs _

theorem pointerUp_behind : (d.behind cs).pointerUp = d.pointerUp.behind cs := by
  unfold pointerUp
  rw [gesture_behind, dropGesture_behind]
  cases d.gesture with
  | none => rfl
  | some g =>
      dsimp only
      split
      · next tab _ _ =>
        cases g.dragging with
        | false => exact behind_of_amid _ cs (·.activateTab tab) (activateTab_amid · · · tab)
        | true =>
            cases g.target with
            | none =>
                have hfloat : (d.dropGesture.behind cs).floatTab tab = _ :=
                  behind_of_amid d.dropGesture cs (·.floatTab tab) (floatTab_amid · · · tab)
                simp only [hfloat, emit_behind, if_true]
            | some target => simp only [moveTab_behind, emit_behind, if_true]
      · exact emit_behind ..

theorem cancelDrag_behind : (d.behind cs).cancelDrag = d.cancelDrag.behind cs := by
  unfold cancelDrag
  rw [gesture_behind]
  cases d.gesture.isSome with
  | false => rfl
  | true => exact hold_behind d cs none

theorem externalOver_behind (point : Point) :
    (d.behind cs).externalOver point = (d.externalOver point).behind cs := by
  unfold externalOver
  rw [gesture_behind, show (d.behind cs).hitTest point = d.hitTest point from rfl]
  cases d.gesture with
  | none => exact hold_behind d cs _
  | some g =>
      cases hexternal : g.isExternal with
      | false => simp only [hexternal, Bool.false_eq_true, if_false]
      | true =>
          simp only [hexternal, if_true]
          exact hold_behind d cs _

theorem externalLeave_behind : (d.behind cs).externalLeave = d.externalLeave.behind cs := by
  unfold externalLeave
  rw [show (d.behind cs).externalDrag = d.externalDrag from rfl]
  cases d.externalDrag with
  | false => rfl
  | true => exact hold_behind d cs none

theorem dropWindow_behind (payload : Payload) (shown : Option TabId) (point : Point) :
    (d.behind cs).dropWindow payload shown point =
      (d.dropWindow payload shown point).behind cs := by
  have hready : (if (d.behind cs).externalDrag then (d.behind cs).dropGesture else d.behind cs) =
      (if d.externalDrag then d.dropGesture else d).behind cs := by
    rw [show (d.behind cs).externalDrag = d.externalDrag from rfl, dropGesture_behind]
    cases d.externalDrag with
    | false => rfl
    | true => rfl
  unfold dropWindow
  rw [hready]
  generalize (if d.externalDrag then d.dropGesture else d) = ready
  dsimp only
  rw [show (ready.behind cs).hitTest point = ready.hitTest point from rfl]
  cases shown with
  | none =>
      cases payload.window with
      | none => simp only [Option.elim_none, emit_behind]
      | some window => simp only [Option.elim_some, emit_behind]
  | some tab =>
      cases payload.window with
      | none => simp only [Option.elim_none, dockFloating_behind, emit_behind]
      | some window => simp only [Option.elim_some, dockFloating_behind, emit_behind]

/-! ## Messages -/

/-- Whatever a message is, it takes no notice of the queue and queues behind what is there. -/
theorem receive_behind (m : Message) : (d.behind cs).receive m = (d.receive m).behind cs := by
  cases m with
  | close tab => exact behind_of_amid d cs (·.closeTab tab) (closeTab_amid · · · tab)
  | activate tab => exact behind_of_amid d cs (·.activateTab tab) (activateTab_amid · · · tab)
  | float tab => exact behind_of_amid d cs (·.floatTab tab) (floatTab_amid · · · tab)
  | move tab target => exact moveTab_behind d cs tab target
  | nextTab => exact behind_of_amid d cs (·.cycleTab true) (cycleTab_amid · · · true)
  | previousTab => exact behind_of_amid d cs (·.cycleTab false) (cycleTab_amid · · · false)
  | resize area => exact behind_of_amid d cs (·.setViewport area) (setViewport_amid · · · area)
  | windowOpened tab window => exact attachWindow_behind d cs tab window
  | pointerDown tab point => exact pointerDown_behind d cs tab point
  | pointerMove point => exact pointerMove_behind d cs point
  | pointerUp _ => exact pointerUp_behind d cs
  | pointerCancel => exact cancelDrag_behind d cs
  | dragOver point => exact externalOver_behind d cs point
  | dragLeave => exact externalLeave_behind d cs
  | drop mime data point =>
      simp only [receive]
      by_cases hmime : mime = Payload.mime
      case neg => simpa only [hmime, if_false] using externalLeave_behind d cs
      simp only [hmime, if_true]
      cases Payload.ofText? data with
      | none => exact externalLeave_behind d cs
      | some payload => exact dropWindow_behind d cs payload _ point
  | openPlugin plugin => exact emit_behind d cs _

end Behind

/-! ## Handing out -/

section Handing

variable (d : Dock)

theorem behind_outbox : (d.withQueue []).behind d.outbox = d := by
  unfold withQueue behind
  rw [List.append_nil]

theorem withQueue_eq_behind (queue : List Command) :
    d.withQueue queue = (d.withQueue []).behind queue := by
  unfold withQueue behind
  rw [List.append_nil]

theorem handle_eq (m : Message) :
    d.handle m = (Command.batch? (d.receive m).outbox, (d.receive m).withQueue []) := rfl

/-- No command is lost, repeated or put out of order on its way out of the dock. A message hands out
what was queued before and then what it leads to itself. Afterwards the queue is empty, and the dock
is the one that the message leaves if nothing is queued before. -/
theorem handle_withQueue (queue : List Command) (m : Message) :
    ((d.withQueue queue).handle m).2.outbox = [] ∧
      Command.steps ((d.withQueue queue).handle m).1 =
        Command.flattenAll queue ++ Command.flattenAll ((d.withQueue []).receive m).outbox ∧
      Command.steps ((d.withQueue queue).handle m).1 =
        Command.flattenAll queue ++ Command.steps ((d.withQueue []).handle m).1 ∧
      ((d.withQueue queue).handle m).2 = ((d.withQueue []).handle m).2 := by
  have hreceive : (d.withQueue queue).receive m = ((d.withQueue []).receive m).behind queue := by
    rw [withQueue_eq_behind, receive_behind]
  have hout : Command.steps ((d.withQueue queue).handle m).1 =
      Command.flattenAll queue ++ Command.flattenAll ((d.withQueue []).receive m).outbox := by
    rw [handle_eq, hreceive, Command.steps_batch?]
    exact Command.flattenAll_append queue ((d.withQueue []).receive m).outbox
  refine ⟨rfl, hout, ?_, ?_⟩
  · rw [hout, handle_eq, Command.steps_batch?]
  · rw [handle_eq, handle_eq, hreceive]
    rfl

/-- What several messages do to the dock if nothing is handed out. -/
def receiveAll (ms : List Message) : Dock := ms.foldl receive d

/-- The commands that are handed out by several messages, and the dock that they leave. -/
def handleAll : List Message → Dock → List Command × Dock
  | [], d => ([], d)
  | m :: ms, d =>
    let (commands, d) := d.handle m
    let (more, d) := handleAll ms d
    (Command.steps commands ++ more, d)

theorem receiveAll_behind (cs : List Command) (ms : List Message) :
    (d.behind cs).receiveAll ms = (d.receiveAll ms).behind cs := by
  unfold receiveAll
  induction ms generalizing d with
  | nil => rfl
  | cons m ms ih => rw [List.foldl_cons, receive_behind, ih, List.foldl_cons]

/-- It makes no difference when commands are handed out: after every message, they are the same ones
in the same order as those that are queued if nothing is ever handed out. -/
theorem handleAll_eq_receiveAll (ms : List Message) :
    (handleAll ms d).1 ++ Command.flattenAll (handleAll ms d).2.outbox =
        Command.flattenAll (d.receiveAll ms).outbox ∧
      (handleAll ms d).2.withQueue [] = (d.receiveAll ms).withQueue [] := by
  induction ms generalizing d with
  | nil => exact ⟨rfl, rfl⟩
  | cons m ms ih =>
      obtain ⟨hout, hleft⟩ := ih ((d.receive m).withQueue [])
      -- the rest of the messages, with what the first one queues still in the queue
      have hrest : d.receiveAll (m :: ms) =
          (((d.receive m).withQueue []).receiveAll ms).behind (d.receive m).outbox := by
        rw [← receiveAll_behind, behind_outbox]
        rfl
      rw [handleAll, handle_eq]
      refine ⟨?_, ?_⟩
      · rw [List.append_assoc, hout, hrest, Command.steps_batch?]
        exact (Command.flattenAll_append _ _).symm
      · rw [hleft, hrest]
        rfl

end Handing

end Dock

end Docking
