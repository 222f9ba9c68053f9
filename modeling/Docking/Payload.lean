import Docking.Document
import Docking.Ident
import Docking.Json.Value

/-!
# Drag payloads

A detached window that is dragged over the dock carries a small JSON text, which names its plugin
and the window itself.
-/

namespace Docking

/-- What a dragged window says about itself. -/
structure Payload where
  plugin : String
  /-- The window that is dragged, if it says so. -/
  window : Option Window
  deriving DecidableEq, Repr

namespace Payload

/-- The kind of data under which payloads are offered. -/
def mime : String := "application/x-dockshell-plugin"

/-- The fields of a payload, each with the names it goes by. -/
def fields : List (List String) := [["pluginName"], ["originWindowId", "windowId"]]

/-- A payload as a document. A payload without a window does not mention it. -/
def document (p : Payload) : Document :=
  .recordOf [("pluginName", some (.text p.plugin)),
    ("originWindowId", p.window.map fun w => .text w.name)]

/-- A payload as JSON. -/
def text (p : Payload) : String := p.document.json

/-- The payload of a JSON value. -/
def ofJson? (v : Json) : Option Payload :=
  match v.slots? fields with
  | some [plugin, window] =>
    match Fields.required plugin Json.text?,
      Fields.orElse window none (Json.orNull? Json.text?) with
    | some plugin, some window => some ⟨plugin, window.map Window.mk⟩
    | _, _ => none
  | _ => none

/-- The payload of a text. -/
def ofText? (s : String) : Option Payload := (Json.parse? s).bind ofJson?

end Payload

end Docking
