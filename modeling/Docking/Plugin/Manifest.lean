import Docking.Document
import Docking.Json.Value

/-!
# Plugin manifests

A plugin is described by a manifest in its folder. A manifest has to give a name; everything else
may be absent.
-/

namespace Docking

/-- The description of a plugin. -/
structure Manifest where
  name : String
  /-- What sort of plugin it is. -/
  kind : Option String
  /-- The page that the plugin is shown in. -/
  ui : Option String
  renderer : Option String
  /-- What runs in the background. -/
  entry : Option String
  preload : Option String
  /-- The folder of the manifest. -/
  folder : String
  deriving DecidableEq, Repr

namespace Manifest

/-- The manifest that gives a name and nothing else. -/
def named (name : String) : Manifest := ⟨name, none, none, none, none, none, ""⟩

/-- The file that a manifest is in. -/
def fileName : String := "plugin.json"

/-- The fields of a manifest. -/
def fields : List (List String) :=
  [["name"], ["type"], ["ui"], ["renderer"], ["entry"], ["preload"]]

/-- A field that may be absent. -/
def optional (slot : Option Json) : Option (Option String) :=
  Fields.orElse slot none (Json.orNull? Json.text?)

/-- The manifest of a JSON value that was found in a folder. -/
def ofJson? (folder : String) (v : Json) : Option Manifest :=
  match v.slots? fields with
  | some [name, kind, ui, renderer, entry, preload] => do
    let name ← Fields.required name Json.text?
    some ⟨name, ← optional kind, ← optional ui, ← optional renderer, ← optional entry,
      ← optional preload, folder⟩
  | _ => none

/-- The manifest of a text that was found in a folder. -/
def ofText? (folder s : String) : Option Manifest := (Json.parse? s).bind (ofJson? folder)

/-- A manifest as a document, without what is absent. -/
def document (m : Manifest) : Document :=
  .recordOf [("name", some (.text m.name)), ("type", m.kind.map .text), ("ui", m.ui.map .text),
    ("renderer", m.renderer.map .text), ("entry", m.entry.map .text),
    ("preload", m.preload.map .text)]

end Manifest

end Docking
