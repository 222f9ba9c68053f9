import Docking.Decimal.Style
import Docking.Geometry
import Docking.Ident
import Docking.Text.Escaped

/-!
# Script steps

A script is a list of steps, each of which is something that a user could do. Tabs are named by
number or by title.
-/

namespace Docking

/-- A tab as a script names it. -/
inductive TabRef where
  | id (tab : TabId)
  | title (title : String)
  deriving DecidableEq, Repr

/-- Something that a user could do. -/
inductive Step where
  /-- Open a tab of a plugin. -/
  | openPlugin (plugin : String) (activate : Bool)
  /-- Press the pointer on a tab. -/
  | press (tab : TabRef) (point : Point)
  /-- Move the pointer. -/
  | move (point : Point)
  /-- Release the pointer. -/
  | release (point : Point)
  /-- Give the gesture up. -/
  | cancel
  | close (tab : TabRef)
  | activate (tab : TabRef)
  | float (tab : TabRef)
  | nextTab
  | previousTab
  /-- Give the dock another size. -/
  | resize (width height : Float32)
  /-- Drag a detached window over the dock. -/
  | dragOver (point : Point)
  /-- Drag a detached window out of the dock. -/
  | dragLeave
  /-- Drop a detached window of a plugin on the dock. -/
  | externalDrop (plugin : String) (window : Option String) (point : Point)
  /-- Enable or disable a plugin. -/
  | toggle (plugin : String)
  deriving DecidableEq

/-! ## Steps in messages -/

/-- A tab in a message. -/
def TabRef.text : TabRef → String
  | id tab => s!"Id({tab.number})"
  | title t => s!"Title({Text.escaped t})"

namespace Step

/-- The name of a step with its fields, in a message. -/
def fielded (name : String) (fields : List (String × String)) : String :=
  name ++ " \x7b " ++ ", ".intercalate (fields.map fun (field, value) => field ++ ": " ++ value) ++
    " \x7d"

/-- A float in a message. -/
def floatText (x : Float32) : String := Decimal.Style.debug.text x

/-- The fields of a point in a message. -/
def pointFields (p : Point) : List (String × String) := [("x", floatText p.x), ("y", floatText p.y)]

/-- A truth value in a message. -/
def boolText (b : Bool) : String := if b then "true" else "false"

/-- A text that may be absent, in a message. -/
def optionalText : Option String → String
  | none => "None"
  | some s => s!"Some({Text.escaped s})"

/-- A step in a message. -/
def text : Step → String
  | openPlugin plugin shown =>
    fielded "Open" [("plugin", Text.escaped plugin), ("activate", boolText shown)]
  | press tab point => fielded "Press" (("tab", tab.text) :: pointFields point)
  | move point => fielded "Move" (pointFields point)
  | release point => fielded "Release" (pointFields point)
  | cancel => "Cancel"
  | close tab => fielded "Close" [("tab", tab.text)]
  | activate tab => fielded "Activate" [("tab", tab.text)]
  | float tab => fielded "Float" [("tab", tab.text)]
  | nextTab => "NextTab"
  | previousTab => "PrevTab"
  | resize width height =>
    fielded "Resize" [("width", floatText width), ("height", floatText height)]
  | dragOver point => fielded "DragOver" (pointFields point)
  | dragLeave => "DragLeave"
  | externalDrop plugin window point =>
    fielded "ExternalDrop"
      (("plugin", Text.escaped plugin) :: ("window", optionalText window) :: pointFields point)
  | toggle plugin => fielded "Toggle" [("plugin", Text.escaped plugin)]

end Step

end Docking
