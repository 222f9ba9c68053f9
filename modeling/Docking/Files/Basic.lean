import Docking.Path

/-!
# Files

What a program reads of a file system, over any monad in which it can be read.
-/

namespace Docking

/-- A file system that can be read. -/
structure Files (m : Type → Type) where
  /-- The text of a file, if it can be read and is a text. -/
  readText : (path : String) → m (Option String)
  /-- The names of the folders within a folder, if it can be read. -/
  folders : (path : String) → m (Option (List String))

end Docking
