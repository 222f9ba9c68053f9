import Docking.Geometry
import Docking.Tree.Fault

/-!
# Splits

A split is an inner node of the layout: it divides its area between its children, side by side or
one above the other. A split is built child by child and takes at most two.
-/

namespace Docking

/-- The direction in which a split sets out its children. -/
inductive Orientation where
  /-- Side by side. -/
  | row
  /-- One above the other. -/
  | column
  deriving DecidableEq, Repr

/-- An inner node of the layout. -/
structure Split where
  orientation : Orientation
  /-- The share of the area that the first child gets. -/
  ratio : Float32
  /-- The children, first to last. -/
  children : List NodeId
  deriving DecidableEq

namespace Split

/-- The split of an orientation that has no child yet and will divide its area evenly. -/
def empty (orientation : Orientation) : Split := ⟨orientation, 0.5, []⟩

/-- The split with two given children. -/
def pair (orientation : Orientation) (first second : NodeId) : Split :=
  ⟨orientation, 0.5, [first, second]⟩

/-- Whether a node is a child of the split. -/
def contains (s : Split) (id : NodeId) : Bool := s.children.contains id

/-- Adds a child behind the others. -/
def addChild (s : Split) (id : NodeId) : Except EditError Split :=
  if s.children.length ≥ 2 then .error (.splitFull id)
  else .ok { s with children := s.children ++ [id] }

/-- Puts `new` into the place of the first child `old`. -/
def replaceChild (s : Split) (old new : NodeId) : Option Split :=
  if s.contains old then some { s with children := s.children.replace old new } else none

/-- Takes the first child of a name out. The second part of the result is the child that is left
alone by this, if it is one. -/
def removeChild (s : Split) (id : NodeId) : Split × Option NodeId :=
  if s.contains id then
    let rest := s.children.erase id
    ({ s with children := rest }, match rest with
      | [survivor] => some survivor
      | _ => none)
  else (s, none)

/-- A share that is kept between nothing and everything. An undefined share stays undefined. -/
def clampShare (ratio : Float32) : Float32 :=
  if ratio < 0 then 0 else if ratio > 1 then 1 else ratio

/-- The areas of the first and the second child within the area of the split. -/
def childRects (s : Split) (area : Rect) : Rect × Rect :=
  match s.orientation with
  | .row => area.splitColumns (clampShare s.ratio)
  | .column => area.splitRows (clampShare s.ratio)

end Split

end Docking
