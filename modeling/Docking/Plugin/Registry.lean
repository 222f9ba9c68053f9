import Docking.Ident
import Docking.Plugin.Manifest

/-!
# The plugin registry

The registry makes the content of tabs. It makes surfaces for enabled plugins that have a manifest,
and for the plugin manager, which is built in; and it keeps track of which surfaces are alive and
where they are shown. A request for a surface leaves a registry behind, whether it was granted or
not.

## Main definitions

* `Registry`, `Registry.new`: a registry, and the registry that has not made a surface yet.
* `Registry.createSurface`: a request for a surface. `Registry.create` is the same as one value, and
  `createSurface_eq` says so.
-/

namespace Docking

/-- The makers of content and what they have made. -/
structure Registry where
  manifests : List Manifest
  /-- The names of the enabled plugins. Only membership counts. -/
  enabled : List String
  /-- How many surfaces have been made so far. -/
  created : Nat
  /-- The surfaces that have been made and not been ended. -/
  live : List SurfaceId
  /-- The panels that surfaces are shown in. -/
  mounted : Table SurfaceId NodeId

namespace Registry

/-- The plugin manager, which is built in. -/
def managerName : String := "plugin-manager"

/-- The title of the plugin manager's tab. -/
def managerTitle : String := "Plugin Manager"

/-- The registry that has not made a surface yet. -/
def new (manifests : List Manifest) (enabled : List String) : Registry :=
  ⟨manifests, enabled, 0, [], .empty⟩

/-- The first manifest of a name. -/
def manifest? (r : Registry) (name : String) : Option Manifest :=
  r.manifests.find? fun m => m.name == name

/-- Whether a plugin is enabled. -/
def isEnabled (r : Registry) (name : String) : Bool := r.enabled.contains name

/-- Enables or disables a plugin. -/
def setEnabled (r : Registry) (name : String) (enabled : Bool) : Registry :=
  { r with enabled :=
      if enabled then if r.isEnabled name then r.enabled else r.enabled ++ [name]
      else r.enabled.filter (· ≠ name) }

/-- The title of a plugin's tabs, if surfaces can be made for it now. -/
def title? (r : Registry) (plugin : String) : Option String :=
  if plugin = managerName then some managerTitle
  else if r.isEnabled plugin then (r.manifest? plugin).map Manifest.name
  else none

/-- Makes the next surface. -/
def nextSurface (r : Registry) (plugin : String) : Surface × Registry :=
  let id : SurfaceId := ⟨r.created + 1⟩
  (⟨id, plugin⟩, { r with created := r.created + 1, live := r.live ++ [id] })

/-- Makes a surface for a plugin and says what its tab is called, if surfaces can be made for the
plugin now. -/
def createSurface (r : Registry) (plugin : String) : Option (String × Surface) × Registry :=
  match r.title? plugin with
  | none => (none, r)
  | some title =>
    let (surface, r) := r.nextSurface plugin
    (some (title, surface), r)

/-- The surface that is made for a plugin, with the title of its tab and the registry afterwards. -/
def create (r : Registry) (plugin : String) : Option (String × Surface × Registry) :=
  (r.title? plugin).map fun title =>
    let id : SurfaceId := ⟨r.created + 1⟩
    (title, ⟨id, plugin⟩, { r with created := r.created + 1, live := r.live ++ [id] })

/-- A request that is not granted leaves the registry as it is. -/
theorem createSurface_eq (r : Registry) (plugin : String) :
    r.createSurface plugin =
      match r.create plugin with
      | none => (none, r)
      | some (title, surface, r) => (some (title, surface), r) := by
  unfold createSurface create
  cases r.title? plugin <;> rfl

/-- Shows a surface in a panel. -/
def mount (r : Registry) (surface : SurfaceId) (panel : NodeId) : Registry :=
  { r with mounted := r.mounted.insert surface panel }

/-- Stops showing a surface. -/
def unmount (r : Registry) (surface : SurfaceId) : Registry :=
  { r with mounted := r.mounted.erase surface }

/-- Ends a surface. -/
def destroy (r : Registry) (surface : Surface) : Registry :=
  { r.unmount surface.id with live := r.live.filter (· ≠ surface.id) }

/-- The panel that a surface is shown in. -/
def mountedIn? (r : Registry) (surface : SurfaceId) : Option NodeId := r.mounted.get? surface

end Registry

end Docking
