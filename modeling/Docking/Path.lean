/-!
# Paths

A path is a text whose parts are divided by slashes. Empty parts and single dots name nothing,
except for a dot at the very beginning, which stands for the current folder.
-/

namespace Docking.Path

/-- Whether a path begins at the root. -/
def isAbsolute (path : String) : Bool := path.toList.head? == some '/'

/-- A path as seen from the folder `base`. -/
def join (base path : String) : String :=
  if isAbsolute path then path
  else if base.isEmpty || base.toList.getLast? == some '/' then base ++ path
  else base ++ "/" ++ path

/-- The parts of a text between its slashes. -/
def parts : List Char → List (List Char)
  | [] => [[]]
  | c :: rest =>
    if c = '/' then [] :: parts rest
    else
      match parts rest with
      | [] => [[c]]
      | part :: more => (c :: part) :: more

/-- The text of parts with slashes between them. -/
def joinParts (ps : List (List Char)) : List Char := (ps.intersperse ['/']).flatten

/-- Divides a path into its beginning, which is the root or a dot for the current folder, and the
parts of the rest. -/
def divide : List Char → List Char × List (List Char)
  | '/' :: rest => (['/'], parts rest)
  | ['.'] => (['.'], [])
  | '.' :: '/' :: rest => (['.'], [] :: parts rest)
  | cs => ([], parts cs)

/-- Whether a part names nothing. -/
def isIdle (part : List Char) : Bool := part = [] || part = ['.']

/-- The parts without those at the end that name nothing. -/
def trimParts (ps : List (List Char)) : List (List Char) := (ps.reverse.dropWhile isIdle).reverse

/-- The last part of a path that names something, unless that is the beginning of the path. -/
def lastPart? (path : String) : Option (List Char) := (trimParts (divide path.toList).2).getLast?

/-- The folder that a path lies in. The root and the empty path lie in no folder. -/
def parent? (path : String) : Option String :=
  let (start, ps) := divide path.toList
  match (trimParts ps).reverse with
  | _ :: above => some (String.ofList (start ++ joinParts (trimParts above.reverse)))
  | [] => if start = ['.'] then some "" else none

/-- The part of a name behind its last dot. A dot at the beginning of a name does not count. -/
def extension? (path : String) : Option String :=
  match lastPart? path with
  | none => none
  | some name =>
    if name = ['.', '.'] then none
    else
      match name.reverse.span (· ≠ '.') with
      | (_, []) => none
      | (_, [_]) => none
      | (after, _ :: _ :: _) => some (String.ofList after.reverse)

end Docking.Path
