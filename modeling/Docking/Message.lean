import Docking.Ident
import Docking.Zone

/-!
# Messages

Everything that can happen to a dock from outside: what the user does to tabs, what the pointer
does, what the window host reports, and requests for new tabs.
-/

namespace Docking

/-- Something that happened. -/
inductive Message where
  /-- A tab is to be closed. -/
  | close (tab : TabId)
  /-- A tab is to be shown. -/
  | activate (tab : TabId)
  /-- A docked tab is to get a window of its own. -/
  | float (tab : TabId)
  /-- A docked tab is to be moved. -/
  | move (tab : TabId) (target : DropTarget)
  /-- The next tab of the active panel is to be shown. -/
  | nextTab
  /-- The previous tab of the active panel is to be shown. -/
  | previousTab
  /-- The dock has a new area. -/
  | resize (area : Rect)
  /-- The window of a floating tab is open. -/
  | windowOpened (tab : TabId) (window : Window)
  /-- The pointer was pressed on a tab. -/
  | pointerDown (tab : TabId) (position : Point)
  /-- The pointer was moved. -/
  | pointerMove (position : Point)
  /-- The pointer was released. -/
  | pointerUp (position : Point)
  /-- The gesture was given up. -/
  | pointerCancel
  /-- A detached window is over the dock. -/
  | dragOver (position : Point)
  /-- A detached window has left the dock. -/
  | dragLeave
  /-- Something was dropped on the dock from outside. -/
  | drop (mime data : String) (position : Point)
  /-- A new tab of a plugin is wanted. -/
  | openPlugin (plugin : String)
  deriving DecidableEq

end Docking
