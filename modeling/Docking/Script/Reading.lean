import Docking.Datum.Yaml
import Docking.Fields
import Docking.Script.Step

/-!
# Reading scripts

A step is a record that names its action under `action`, beside its fields, or a list of the action
and the fields in order. In a record a field goes by its name or by its number. Names that are no
field's are passed over; steps without fields pass over everything in a record.

## Main definitions

* `Entry`: a step that has been read but not yet understood.
* `Step.ofEntry?`: its meaning.
* `Script.ofYaml?`, `Script.ofJson?`: the steps of a script.
-/

namespace Docking

/-- The fields of a step. -/
inductive Arguments where
  | named (members : List (Datum × Datum))
  | listed (items : List Datum)

/-- A step that has been read but not yet understood. -/
structure Entry where
  action : String
  arguments : Arguments

/-! ## Entries -/

namespace Entry

/-- The name under which a record gives the action. -/
def actionName : String := "action"

/-- The entry of a JSON value. -/
def ofJson? : Json → Option Entry
  | .record members =>
    let (actions, others) := members.partition fun m => m.1 == some actionName
    match actions with
    | [(_, .text (some action))] =>
      (Datum.ofJsonMembers? others).map fun others => ⟨action, .named others⟩
    | _ => none
  | .list (.text (some action) :: rest) =>
    (Datum.ofJsonItems? rest).map fun items => ⟨action, .listed items⟩
  | _ => none

end Entry

namespace Yaml.Linked

/-- The text of a scalar, whatever its form. -/
def scalarText (d : Linked) (n : Node) : StateT Nat Option String := do
  match ← d.resolve n with
  | .scalar _ text _ => return text
  | _ => failure

/-- A member of a step: the action, which is taken as it is written, or a field. -/
def member (d : Linked) (depth : Nat) (m : Node × Node) :
    StateT Nat Option (String ⊕ (Datum × Datum)) := do
  let key ← d.datum depth m.1
  if key.text? = some Entry.actionName then return .inl (← d.scalarText m.2)
  else return .inr (key, ← d.datum depth m.2)

/-- The entry of a node. -/
def entry (d : Linked) (depth : Nat) (n : Node) : StateT Nat Option Entry := do
  match ← d.resolve n with
  | .mapping p members =>
    if p.tag.any isLocal then failure
    let parts ← members.mapM (d.member depth)
    match parts.filterMap Sum.getLeft? with
    | [action] => return ⟨action, .named (parts.filterMap Sum.getRight?)⟩
    | _ => failure
  | .sequence p (first :: rest) =>
    if p.tag.any isLocal then failure
    let action ← d.scalarText first
    return ⟨action, .listed (← rest.mapM (d.datum depth))⟩
  | _ => failure

end Yaml.Linked

/-! ## Steps -/

namespace Step

/-- The fields of an action, in order. -/
def fieldsOf : String → List String
  | "open" => ["plugin", "activate"]
  | "press" => ["tab", "x", "y"]
  | "move" | "release" | "drag_over" => ["x", "y"]
  | "close" | "activate" | "float" => ["tab"]
  | "resize" => ["width", "height"]
  | "external_drop" => ["plugin", "window", "x", "y"]
  | "toggle" => ["plugin"]
  | _ => []

/-- The field that a key stands for: its name, or the name of the field of that number. -/
def keyName? (fields : List String) : Datum → Option String
  | .text s => some s
  | .natural n => some (fields[n]?.getD (toString n))
  | _ => none

/-- The slots of the fields of an action. -/
def slots? (fields : List String) : Arguments → Option (List (Option Datum))
  | .named members =>
    if fields.isEmpty then some []
    else
      (members.mapM fun m => (keyName? fields m.1).map (·, m.2)).bind
        (Fields.byName (fields.map ([·])))
  | .listed items => Fields.byPosition fields.length items

/-- A tab by number or by title. -/
def tabOf? (v : Datum) : Option TabRef :=
  match v.natural? with
  | some n => some (.id ⟨n⟩)
  | none => v.text?.map .title

/-- A point by its coordinates. -/
def pointOf? (x y : Option Datum) : Option Point :=
  match Fields.required x Datum.float32?, Fields.required y Datum.float32? with
  | some x, some y => some ⟨x, y⟩
  | _, _ => none

/-- The step of an action and the slots of its fields. -/
def ofSlots? : String → List (Option Datum) → Option Step
  | "open", [plugin, shown] => do
    let plugin ← Fields.required plugin Datum.text?
    some (openPlugin plugin (← Fields.orElse shown true Datum.bool?))
  | "press", [tab, x, y] => do some (press (← Fields.required tab tabOf?) (← pointOf? x y))
  | "move", [x, y] => (pointOf? x y).map move
  | "release", [x, y] => (pointOf? x y).map release
  | "cancel", _ => some cancel
  | "close", [tab] => (Fields.required tab tabOf?).map close
  | "activate", [tab] => (Fields.required tab tabOf?).map activate
  | "float", [tab] => (Fields.required tab tabOf?).map float
  | "next_tab", _ => some nextTab
  | "prev_tab", _ => some previousTab
  | "resize", [width, height] => do
    some (resize (← Fields.required width Datum.float32?) (← Fields.required height Datum.float32?))
  | "drag_over", [x, y] => (pointOf? x y).map dragOver
  | "drag_leave", _ => some dragLeave
  | "external_drop", [plugin, window, x, y] => do
    let plugin ← Fields.required plugin Datum.text?
    let window ← Fields.orElse window none (Datum.orNull? Datum.text?)
    some (externalDrop plugin window (← pointOf? x y))
  | "toggle", [plugin] => (Fields.required plugin Datum.text?).map toggle
  | _, _ => none

/-- The step of an entry. -/
def ofEntry? (e : Entry) : Option Step :=
  (slots? (fieldsOf e.action) e.arguments).bind (ofSlots? e.action)

end Step

/-! ## Scripts -/

namespace Script

/-- The entries of a YAML document. A document that says nothing has none. -/
def entries? (root : Yaml.Node) : Option (List Entry) :=
  match root with
  | .scalar _ text style => if text.isEmpty && style = .plain then some [] else none
  | .sequence _ items =>
    let d := Yaml.Linked.ofRoot root
    ((items.mapM (d.entry (Datum.maxDepth - 2))).run d.limit).map Prod.fst
  | _ => none

/-- The steps of a YAML text. A text without a document has none. -/
def ofYaml? (s : String) : Option (List Step) := do
  match ← Yaml.readDocument s with
  | none => some []
  | some root => (← entries? root).mapM Step.ofEntry?

/-- The steps of a JSON value. -/
def ofJson? (v : Json) : Option (List Step) := do
  (← v.list?).mapM fun item => (Entry.ofJson? item).bind Step.ofEntry?

end Script

end Docking
