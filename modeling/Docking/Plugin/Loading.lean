import Docking.Files.Basic
import Docking.Plugin.Manifest

/-!
# Loading plugins

Every folder within the plugins folder that holds a manifest is a plugin. The plugins come in the
order of the names of their folders. A folder whose manifest can not be read is passed over, and so
is a plugins folder that can not be read.
-/

namespace Docking.Manifest

variable {m : Type → Type} [Monad m]

/-- The manifest in a folder. -/
def load (files : Files m) (folder : String) : m (Option Manifest) := do
  return (← files.readText (Path.join folder fileName)).bind (ofText? folder)

/-- The manifests in the folders of a folder. -/
def loadAll (files : Files m) (folder : String) : m (List Manifest) := do
  let names := (← files.folders folder).getD []
  let found ← (names.mergeSort fun a b => decide (a ≤ b)).mapM fun name =>
    load files (Path.join folder name)
  return found.filterMap id

end Docking.Manifest
