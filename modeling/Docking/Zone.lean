import Docking.Split

/-!
# Drop zones

A panel is divided into a centre and four edges. A tab that is dropped on the centre joins the
panel; one that is dropped on an edge gets a panel of its own on that side.

## Main definitions

* `Zone`, `Zone.classify`: the zones, and the zone of a point.
* `DropTarget`: a zone of a panel.
* `Indicator`: the hint that is painted over a zone.
* `DragSettings`: what the user can choose about drags.
-/

namespace Docking

/-- A part of a panel on which a tab can be dropped. -/
inductive Zone where
  | left
  | right
  | top
  | bottom
  | center
  deriving DecidableEq, Repr

namespace Zone

/-- The zone of a point whose distances from the left and the top border are the shares `fx` and
`fy` of the panel's size, where edges are `edge` wide. The left and the right edge include the
corners. -/
def classify (fx fy edge : Float32) : Zone :=
  if fx < edge then left
  else if fx > 1 - edge then right
  else if fy < edge then top
  else if fy > 1 - edge then bottom
  else center

/-- The orientation of the split that a drop on an edge makes. -/
def orientation? : Zone → Option Orientation
  | left | right => some .row
  | top | bottom => some .column
  | center => none

/-- Whether the new panel of a drop goes before the panel that is split. -/
def newFirst : Zone → Bool
  | left | top => true
  | right | bottom | center => false

/-- The name of a zone. -/
def text : Zone → String
  | left => "left"
  | right => "right"
  | top => "top"
  | bottom => "bottom"
  | center => "center"

end Zone

/-- Where a tab is to be dropped. -/
structure DropTarget where
  panel : NodeId
  zone : Zone
  deriving DecidableEq, Repr

/-- The hint that shows where a dragged tab would go. -/
structure Indicator where
  rect : Rect
  opacity : Float32
  deriving DecidableEq

/-- The hint over a zone of a panel: half of the panel at an edge, and all of it, fainter, at the
centre. -/
def Indicator.ofZone (panel : Rect) (zone : Zone) : Indicator :=
  let halfWidth := panel.width / 2
  let halfHeight := panel.height / 2
  match zone with
  | .left => ⟨⟨panel.x, panel.y, halfWidth, panel.height⟩, 0.5⟩
  | .right => ⟨⟨panel.x + halfWidth, panel.y, halfWidth, panel.height⟩, 0.5⟩
  | .top => ⟨⟨panel.x, panel.y, panel.width, halfHeight⟩, 0.5⟩
  | .bottom => ⟨⟨panel.x, panel.y + halfHeight, panel.width, halfHeight⟩, 0.5⟩
  | .center => ⟨panel, 0.2⟩

/-- What the user can choose about drags. -/
structure DragSettings where
  /-- How far the pointer must travel for a press to become a drag. -/
  threshold : Float32
  /-- The share of a panel's width or height that is an edge. -/
  edge : Float32
  deriving DecidableEq

/-- The choices of a user who has made none. -/
def DragSettings.standard : DragSettings := ⟨5, 0.25⟩

end Docking
