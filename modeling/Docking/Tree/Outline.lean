import Docking.Document
import Docking.Tree.Snapshot

/-!
# Printed layouts

A snapshot is printed as an indented outline with a node or a tab a line, as a one-line shape that
shows only how panels are nested, and as a document.
-/

namespace Docking

/-- The name of an orientation in an outline and in a shape. -/
def Orientation.caption : Orientation → String
  | row => "Row"
  | column => "Column"

/-- The name of an orientation in a document. -/
def Orientation.keyword : Orientation → String
  | row => "row"
  | column => "column"

namespace Snapshot

/-- A coordinate in an outline. -/
def coordinate (x : Float32) : String := Decimal.Style.plain.text x

/-- The line of a panel. -/
def panelLine (id : NodeId) (rect : Rect) : String :=
  let size := coordinate rect.width ++ "x" ++ coordinate rect.height
  s!"panel {id.text} @ {size}+{coordinate rect.x}+{coordinate rect.y}"

/-- The line of a tab. A star marks the active one. -/
def tabLine (active : Option TabId) (tab : TabLabel) : String :=
  let marker := if some tab.id = active then "*" else " "
  s!"  {marker} {tab.id.text} {tab.title}"

/-- The line of a split. -/
def splitLine (id : NodeId) (orientation : Orientation) (ratio : Float32) : String :=
  s!"split {id.text} {orientation.caption} ratio={coordinate ratio}"

mutual

/-- The lines of an outline that begins `depth` levels deep. -/
def outlineLines (depth : Nat) : Snapshot → List String
  | panel id rect tabs active =>
    (panelLine id rect :: tabs.map (tabLine active)).map fun line =>
      "".pushn ' ' (2 * depth) ++ line
  | split id orientation ratio children =>
    ("".pushn ' ' (2 * depth) ++ splitLine id orientation ratio) ::
      outlineLinesAll (depth + 1) children

/-- The lines of several outlines, one behind the other. -/
def outlineLinesAll (depth : Nat) : List Snapshot → List String
  | [] => []
  | s :: rest => s.outlineLines depth ++ outlineLinesAll depth rest

end

/-- An indented outline, with a node or a tab a line. -/
def outline (s : Snapshot) : String := String.join ((s.outlineLines 0).map (· ++ "\n"))

mutual

/-- How panels are nested, on one line. -/
def shape : Snapshot → String
  | panel _ _ tabs _ => "Panel\x7b" ++ ", ".intercalate (tabs.map TabLabel.title) ++ "\x7d"
  | split _ orientation _ children =>
    orientation.caption ++ "(" ++ ", ".intercalate (shapes children) ++ ")"

/-- The shapes of several layouts. -/
def shapes : List Snapshot → List String
  | [] => []
  | s :: rest => s.shape :: shapes rest

end

/-- An area as a document. -/
def rectDocument (r : Rect) : Document :=
  .record [("x", .float r.x), ("y", .float r.y), ("width", .float r.width),
    ("height", .float r.height)]

/-- A tab as a document. -/
def tabDocument (tab : TabLabel) : Document :=
  .record [("id", .natural tab.id.number), ("title", .text tab.title)]

mutual

/-- A layout as a document. -/
def document : Snapshot → Document
  | panel id rect tabs active =>
    .record [("type", .text "panel"), ("id", .natural id.number), ("rect", rectDocument rect),
      ("tabs", .list (tabs.map tabDocument)),
      ("active", active.elim .null fun tab => .natural tab.number)]
  | split id orientation ratio children =>
    .record [("type", .text "split"), ("id", .natural id.number),
      ("orientation", .text orientation.keyword), ("ratio", .float ratio),
      ("children", .list (documents children))]

/-- Several layouts as documents. -/
def documents : List Snapshot → List Document
  | [] => []
  | s :: rest => s.document :: documents rest

end

end Snapshot

end Docking
