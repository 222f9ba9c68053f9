import Docking.Table

/-!
# Names of things

Nodes of a layout, tabs and content surfaces are named by numbers that a counter hands out; detached
windows are named by the window host. Each kind of name is a type of its own, so a tab can not be
looked up where a panel is expected.
-/

namespace Docking

/-- Names a node of a layout tree. -/
structure NodeId where
  /-- The number that the tree's counter gave. -/
  number : Nat
  deriving DecidableEq, Repr

/-- Names an open tab. -/
structure TabId where
  /-- The number that the dock's counter gave. -/
  number : Nat
  deriving DecidableEq, Repr

/-- Names a content surface. -/
structure SurfaceId where
  /-- The number that the content registry's counter gave. -/
  number : Nat
  deriving DecidableEq, Repr

/-- Names a detached window. -/
structure Window where
  /-- The name that the window host gave. -/
  name : String
  deriving DecidableEq, Repr

/-- The written form of a node's name. -/
def NodeId.text (id : NodeId) : String := s!"node-{id.number}"

/-- The written form of a tab's name. -/
def TabId.text (id : TabId) : String := s!"tab-{id.number}"

instance : Key NodeId := ⟨NodeId.number, fun {a b} h => by cases a; cases b; cases h; rfl⟩

instance : Key TabId := ⟨TabId.number, fun {a b} h => by cases a; cases b; cases h; rfl⟩

instance : Key SurfaceId := ⟨SurfaceId.number, fun {a b} h => by cases a; cases b; cases h; rfl⟩

/-- The content of a tab: a handle that is moved between places and never looked into. -/
structure Surface where
  /-- The surface's name. -/
  id : SurfaceId
  /-- The plugin that made it. -/
  plugin : String
  deriving DecidableEq, Repr

end Docking
