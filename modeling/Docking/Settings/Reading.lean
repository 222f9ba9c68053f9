import Docking.Fields
import Docking.Json.Value
import Docking.Settings.Basic
import Docking.Yaml.Writing
import Docking.Yaml.Plain
import Docking.Datum.Yaml

/-!
# Reading settings

Settings are read from JSON or from YAML. What is not given is as in the standard settings, and what
is no setting is passed over. In JSON the settings may also be a list, in their order.

Here YAML is read by what each setting has to be: a text may be written in any way, and is never
taken for something else.
-/

namespace Docking

namespace Settings

/-- The names of the settings, in their order. -/
def fields : List (List String) :=
  [["pluginsDirectory"], ["enabledPlugins"], ["dragThreshold"], ["edgeFraction"],
    ["openPluginManager"]]

/-- Settings from the slots of their fields, given how values are read. -/
def ofSlots? (text : α → Option String) (texts : α → Option (List String))
    (float : α → Option Float32) (bool : α → Option Bool) :
    List (Option α) → Option Settings
  | [directory, enabled, threshold, edge, manager] => do
    let directory ← Fields.orElse directory standard.pluginsDirectory text
    let enabled ← Fields.orElse enabled standard.enabledPlugins texts
    let threshold ← Fields.orElse threshold standard.dragThreshold float
    let edge ← Fields.orElse edge standard.edgeFraction float
    let manager ← Fields.orElse manager standard.openPluginManager bool
    some ⟨directory, enabled, threshold, edge, manager⟩
  | _ => none

/-! ## JSON -/

/-- A list of texts. -/
def jsonTexts (v : Json) : Option (List String) := v.list?.bind fun items => items.mapM Json.text?

/-- A number, as a 32-bit float. -/
def jsonFloat (v : Json) : Option Float32 := v.number?.bind Json.Number.float32?

/-- The settings of a JSON value. -/
def ofJson? (v : Json) : Option Settings :=
  (v.slots? fields).bind (ofSlots? Json.text? jsonTexts jsonFloat Json.bool?)

/-! ## YAML -/

/-- The node that an alias stands for, or the node itself. -/
def resolve (d : Yaml.Linked) : Yaml.Node → Option Yaml.Node
  | .aliasOf anchor => d.anchors.lookup anchor
  | n => some n

/-- The text of a scalar, however it is written. -/
def yamlText (d : Yaml.Linked) (n : Yaml.Node) : Option String :=
  match resolve d n with
  | some (.scalar _ text _) => some text
  | _ => none

/-- The items of a sequence. A value that is not written at all has none. -/
def yamlTexts (d : Yaml.Linked) (n : Yaml.Node) : Option (List String) :=
  match resolve d n with
  | some (.sequence _ items) => items.mapM (yamlText d)
  | some (.scalar _ text style) => if text.isEmpty && style = .plain then some [] else none
  | _ => none

/-- The text of a scalar that may be something other than a text: a plain one, or a block of lines
with the right tag. -/
def yamlPlain (d : Yaml.Linked) (tag : String) (n : Yaml.Node) : Option String :=
  match resolve d n with
  | some (.scalar p text style) =>
    let tagged := style = .literal ∧ p.tag = some (Yaml.coreTag tag)
    if style = .plain ∨ tagged then some text else none
  | _ => none

/-- A number, as a 32-bit float. -/
def yamlFloat (d : Yaml.Linked) (n : Yaml.Node) : Option Float32 :=
  ((yamlPlain d "float" n).bind Yaml.readFloat).map Float.toFloat32

/-- A truth value. -/
def yamlBool (d : Yaml.Linked) (n : Yaml.Node) : Option Bool :=
  (yamlPlain d "bool" n).bind Yaml.readBool

/-- The settings of a mapping. -/
def ofMembers? (d : Yaml.Linked) (members : List (Yaml.Node × Yaml.Node)) : Option Settings := do
  let members ← members.mapM fun m => (yamlText d m.1).map (·, m.2)
  let slots ← Fields.byName fields members
  ofSlots? (yamlText d) (yamlTexts d) (yamlFloat d) (yamlBool d) slots

/-- The settings of a YAML document. A document that says nothing chooses nothing. -/
def ofRoot? (root : Yaml.Node) : Option Settings :=
  match root with
  | .mapping _ members => ofMembers? (.ofRoot root) members
  | .scalar _ text style => if text.isEmpty && style = .plain then some standard else none
  | _ => none

/-! ## Texts -/

/-- The settings of a JSON text. -/
def ofJsonText? (s : String) : Option Settings := (Json.parse? s).bind ofJson?

/-- The settings of a YAML text. A text without a document chooses nothing. -/
def ofYamlText? (s : String) : Option Settings := do
  match ← Yaml.readDocument s with
  | none => some standard
  | some root => ofRoot? root

/-- Whether a file holds YAML, which its name tells. -/
def isYamlFile (path : String) : Bool :=
  Path.extension? path == some "yaml" || Path.extension? path == some "yml"

/-- The settings of a file's text, with numbers that make sense. -/
def ofFile? (path text : String) : Option Settings :=
  (if isYamlFile path then ofYamlText? text else ofJsonText? text).map sanitize

/-- The text of a settings file. -/
def fileText (s : Settings) (path : String) : String :=
  if isYamlFile path then s.document.yaml else s.document.prettyJson

end Settings

end Docking
