import Docking.Datum.Basic
import Docking.Yaml.Grammar
import Docking.Yaml.Plain

/-!
# Data from YAML

Aliases are replaced by what they stand for. Two limits keep a small text from standing for a huge
datum: collections may be nested 128 deep, and aliases may be followed only a hundred times as often
as the document has parts.
-/

namespace Docking

namespace Yaml

/-- The tags that have a meaning of their own. -/
def coreTag (name : String) : String := "tag:yaml.org,2002:" ++ name

/-- Whether a tag belongs to one application, which means nothing here. -/
def isLocal (tag : String) : Bool := tag.toList.head? == some '!'

/-- What a plain scalar is. -/
def plainDatum? (s : String) : Option Datum :=
  match Plain.ofText s with
  | .null => some .null
  | .bool b => some (.bool b)
  | .natural n => some (.natural n)
  | .negative i => some (.negative i)
  | .oversized => none
  | .float x => some (.float x)
  | .text => some (.text s)

/-- What a scalar is that is tagged as an integer. -/
def taggedInteger? (s : String) : Option Datum :=
  match (readInteger? s.toList).bind Plain.ofInteger? with
  | some (.natural n) => some (.natural n)
  | some (.negative i) => some (.negative i)
  | _ => none

/-- What a scalar is. Its tag comes before its form. -/
def scalarDatum? (tag : Option String) (s : String) (style : ScalarStyle) : Option Datum :=
  match tag with
  | none => if style = .plain then plainDatum? s else some (.text s)
  | some t =>
    if isLocal t then none
    else if t = coreTag "bool" then (readBool s).map .bool
    else if t = coreTag "int" then taggedInteger? s
    else if t = coreTag "float" then (readFloat s).map .float
    else if t = coreTag "null" then if isNull s then some .null else none
    else some (.text s)

/-- A document whose aliases can be followed. -/
structure Linked where
  root : Node
  /-- The nodes that anchors stand for, the later ones first. -/
  anchors : List (Nat × Node)
  /-- How often aliases may be followed. -/
  limit : Nat

/-- The document of a root node. -/
def Linked.ofRoot (root : Node) : Linked :=
  ⟨root, (root.preorder.filterMap fun n => n.anchor?.map (·, n)).reverse, 100 * root.partCount⟩

/-- Follows an alias. The state is the number of times that aliases may still be followed. -/
def Linked.follow (d : Linked) (anchor : Nat) : StateT Nat Option Node := do
  match ← get with
  | 0 => failure
  | left + 1 =>
    set left
    StateT.lift (d.anchors.lookup anchor)

/-- A node that is no alias. -/
def Linked.resolve (d : Linked) : Node → StateT Nat Option Node
  | .aliasOf anchor => d.follow anchor
  | n => pure n

/-- The datum of a node with collections at most `depth` deep. -/
def Linked.datum (d : Linked) : (depth : Nat) → Node → StateT Nat Option Datum
  | 0, n => do
    match ← d.resolve n with
    | .scalar p s style => StateT.lift (scalarDatum? p.tag s style)
    | _ => failure
  | depth + 1, n => do
    match ← d.resolve n with
    | .aliasOf _ => failure
    | .scalar p s style => StateT.lift (scalarDatum? p.tag s style)
    | .sequence p items =>
      if p.tag.any isLocal then failure
      else return .list (← items.mapM (d.datum depth))
    | .mapping p members =>
      if p.tag.any isLocal then failure
      else
        return .record (← members.mapM fun (k, v) => do
          let k ← d.datum depth k
          let v ← d.datum depth v
          return (k, v))

end Yaml

/-- How deep collections may be nested. -/
def Datum.maxDepth : Nat := 128

end Docking
