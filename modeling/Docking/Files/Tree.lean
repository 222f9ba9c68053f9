import Docking.Files.Basic

/-!
# File systems in memory

A file system as a tree of folders, with a folder in which relative paths begin.
-/

namespace Docking

/-- A file or a folder. -/
inductive FileTree where
  | file (content : ByteArray)
  | folder (entries : List (String × FileTree))

namespace FileTree

instance : Inhabited FileTree := ⟨folder []⟩

/-- The folder without entries. -/
def empty : FileTree := folder []

/-- The entry of a name. -/
def child? (t : FileTree) (name : String) : Option FileTree :=
  match t with
  | file _ => none
  | folder entries => entries.lookup name

/-- Whether this is a folder. -/
def isFolder : FileTree → Bool
  | file _ => false
  | folder _ => true

/-- Follows the parts of a path from a place. The folders around it are given too, innermost first,
because two dots lead out of a folder. -/
def follow : List (List Char) → FileTree → List FileTree → Option FileTree
  | [], t, _ => some t
  | part :: rest, t, outer =>
    if !t.isFolder then none
    else if Path.isIdle part then follow rest t outer
    else if part = ['.', '.'] then
      match outer with
      | [] => follow rest t []
      | parent :: outer => follow rest parent outer
    else
      match t.child? (String.ofList part) with
      | none => none
      | some inner => follow rest inner (t :: outer)

/-- Puts content at the end of a path of names, with all folders on the way. -/
def write (content : FileTree) : List String → FileTree → FileTree
  | [], _ => content
  | name :: rest, t =>
    let entries :=
      match t with
      | file _ => []
      | folder entries => entries
    let inner := write content rest ((entries.lookup name).getD empty)
    folder ((name, inner) :: entries.filter fun e => e.1 != name)

end FileTree

/-- A tree of folders with a folder in which relative paths begin. -/
structure Disk where
  root : FileTree
  /-- The names that lead from the root to the folder in which relative paths begin. -/
  current : List String

namespace Disk

/-- The names on the way to a place, from the root on. The place need not be there. -/
def namesTo (d : Disk) (path : String) : List String :=
  (Path.parts path.toList).foldl
    (fun names part =>
      if Path.isIdle part then names
      else if part = ['.', '.'] then names.dropLast
      else names ++ [String.ofList part])
    (if Path.isAbsolute path then [] else d.current)

/-- What a path leads to. The empty path leads nowhere. -/
def find? (d : Disk) (path : String) : Option FileTree :=
  if path.isEmpty then none
  else
    let start := if Path.isAbsolute path then [] else d.current.map String.toList
    FileTree.follow (start ++ Path.parts path.toList) d.root []

/-- Puts a file or a folder at a place, with all folders on the way. -/
def put (d : Disk) (path : String) (content : FileTree) : Disk :=
  { d with root := FileTree.write content (d.namesTo path) d.root }

/-- The text of a file. -/
def readText (d : Disk) (path : String) : Option String :=
  match d.find? path with
  | some (.file content) => String.fromUTF8? content
  | _ => none

/-- The names of the folders within a folder. -/
def folders (d : Disk) (path : String) : Option (List String) :=
  match d.find? path with
  | some (.folder entries) => some ((entries.filter fun e => e.2.isFolder).map Prod.fst)
  | _ => none

/-- A tree of folders as a file system. -/
def files (d : Disk) : Files Id := ⟨d.readText, d.folders⟩

end Disk

end Docking
