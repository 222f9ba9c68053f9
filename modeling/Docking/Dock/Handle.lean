import Docking.Dock.Drag
import Docking.Message

/-!
# Handling messages

A message is one operation of the dock, after which all queued commands are handed out as one.
-/

namespace Docking

namespace Dock

/-- What a message does to the dock. -/
def receive (d : Dock) : Message → Dock
  | .close tab => d.closeTab tab
  | .activate tab => d.activateTab tab
  | .float tab => d.floatTab tab
  | .move tab target => (d.moveTab tab target).2
  | .nextTab => d.cycleTab true
  | .previousTab => d.cycleTab false
  | .resize area => d.setViewport area
  | .windowOpened tab window => (d.attachWindow tab window).2
  | .pointerDown tab point => d.pointerDown tab point
  | .pointerMove point => d.pointerMove point
  | .pointerUp _ => d.pointerUp
  | .pointerCancel => d.cancelDrag
  | .dragOver point => d.externalOver point
  | .dragLeave => d.externalLeave
  | .drop mime data point =>
    if mime = Payload.mime then
      match Payload.ofText? data with
      | some payload => d.externalDrop payload point
      | none => d.externalLeave
    else d.externalLeave
  | .openPlugin plugin => d.emit (.instantiate plugin none)

/-- Handles a message and hands out the commands that are queued then, as one. -/
def handle (d : Dock) (m : Message) : Option Command × Dock :=
  let (commands, d) := (d.receive m).takeCommands
  (Command.batch? commands, d)

end Dock

end Docking
