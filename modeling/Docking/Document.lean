import Docking.Decimal.Style
import Docking.Json.Quoted

/-!
# Documents

A document is a value that is to be written out: a layout, a settings file, a manifest or a drag
payload. The members of a record are written in their order.

## Main definitions

* `Document.json`: JSON without blanks.
* `Document.prettyJson`: JSON with a member or an item a line.
-/

namespace Docking

/-- A value that is to be written out. -/
inductive Document where
  | null
  | bool (value : Bool)
  | natural (value : Nat)
  | float (value : Float32)
  | text (value : String)
  | list (items : List Document)
  | record (members : List (String × Document))

namespace Document

instance : Inhabited Document := ⟨null⟩

/-- A text, or `null` if there is none. -/
def ofText? : Option String → Document
  | none => null
  | some s => text s

/-- A record without the members that have no value. -/
def recordOf (members : List (String × Option Document)) : Document :=
  record (members.filterMap fun (name, v) => v.map (name, ·))

/-- A float in JSON, which has no words for infinity or for an undefined value. -/
def jsonFloat (x : Float32) : String :=
  match Decimal.parts x with
  | .undefined | .infinite _ => "null"
  | .zero _ | .finite .. => Decimal.Style.signedDocument.text x

/-- A truth value. -/
def boolText (b : Bool) : String := if b then "true" else "false"

mutual

/-- A document as JSON without blanks. -/
def json : Document → String
  | null => "null"
  | bool b => boolText b
  | natural n => toString n
  | float x => jsonFloat x
  | text s => Json.quoted s
  | list items => "[" ++ ",".intercalate (jsonItems items) ++ "]"
  | record members => "\x7b" ++ ",".intercalate (jsonMembers members) ++ "\x7d"

/-- The items of a list. -/
def jsonItems : List Document → List String
  | [] => []
  | v :: rest => v.json :: jsonItems rest

/-- The members of a record. -/
def jsonMembers : List (String × Document) → List String
  | [] => []
  | (name, v) :: rest => (Json.quoted name ++ ":" ++ v.json) :: jsonMembers rest

end

/-- The blanks before a line that lies `depth` levels deep. -/
def margin (depth : Nat) : String := "".pushn ' ' (2 * depth)

/-- A container whose parts stand on lines of their own. -/
def bracketed (opening closing : String) (depth : Nat) (parts : List String) : String :=
  if parts.isEmpty then opening ++ closing
  else
    let lines := parts.map fun part => margin (depth + 1) ++ part
    opening ++ "\n" ++ ",\n".intercalate lines ++ "\n" ++ margin depth ++ closing

mutual

/-- A document as JSON with a part a line, `depth` levels deep. -/
def prettyJsonAt (depth : Nat) : Document → String
  | null => "null"
  | bool b => boolText b
  | natural n => toString n
  | float x => jsonFloat x
  | text s => Json.quoted s
  | list items => bracketed "[" "]" depth (prettyItems (depth + 1) items)
  | record members => bracketed "\x7b" "\x7d" depth (prettyMembers (depth + 1) members)

/-- The items of a list. -/
def prettyItems (depth : Nat) : List Document → List String
  | [] => []
  | v :: rest => v.prettyJsonAt depth :: prettyItems depth rest

/-- The members of a record. -/
def prettyMembers (depth : Nat) : List (String × Document) → List String
  | [] => []
  | (name, v) :: rest =>
    (Json.quoted name ++ ": " ++ v.prettyJsonAt depth) :: prettyMembers depth rest

end

/-- A document as JSON with a part a line. -/
def prettyJson (d : Document) : String := d.prettyJsonAt 0

end Document

end Docking
