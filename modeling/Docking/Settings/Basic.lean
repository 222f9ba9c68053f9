import Docking.Document
import Docking.Path
import Docking.Zone

/-!
# Settings

What the user can choose, kept in a file between sessions. Settings that make no sense are put back
to the standard ones before they are used.
-/

namespace Docking

/-- The choices of a user. -/
structure Settings where
  /-- Where the plugins are. A relative path begins at the folder of the settings file. -/
  pluginsDirectory : String
  /-- The plugins that are started with the shell, in this order. -/
  enabledPlugins : List String
  dragThreshold : Float32
  edgeFraction : Float32
  /-- Whether the plugin manager is opened at the start. -/
  openPluginManager : Bool
  deriving DecidableEq

namespace Settings

/-- The settings of a user who has chosen nothing. -/
def standard : Settings :=
  ⟨"plugins", [], DragSettings.standard.threshold, DragSettings.standard.edge, true⟩

/-- Whether a number is a distance that a pointer can travel. -/
def thresholdFits (x : Float32) : Bool := x.isFinite && decide (x ≥ 0)

/-- Whether edges of this width leave room for a centre. -/
def edgeFits (x : Float32) : Bool := decide (x > 0) && decide (x < 0.5)

/-- The settings with numbers that make sense. -/
def sanitize (s : Settings) : Settings :=
  { s with
    dragThreshold :=
      if thresholdFits s.dragThreshold then s.dragThreshold else DragSettings.standard.threshold
    edgeFraction := if edgeFits s.edgeFraction then s.edgeFraction else DragSettings.standard.edge }

/-- The settings for drags. -/
def dragSettings (s : Settings) : DragSettings :=
  ⟨s.sanitize.dragThreshold, s.sanitize.edgeFraction⟩

/-- Whether a plugin is enabled. -/
def isEnabled (s : Settings) (plugin : String) : Bool := s.enabledPlugins.contains plugin

/-- Disables a plugin that is enabled, and enables one that is not. The first result is what the
plugin is now. A plugin that is listed more than once is taken off the list once. -/
def toggle (s : Settings) (plugin : String) : Bool × Settings :=
  if s.isEnabled plugin then (false, { s with enabledPlugins := s.enabledPlugins.erase plugin })
  else (true, { s with enabledPlugins := s.enabledPlugins ++ [plugin] })

/-- The folder of the plugins, as seen from the folder of the settings file. -/
def resolvePlugins (s : Settings) (base : Option String) : String :=
  match base with
  | some base => Path.join base s.pluginsDirectory
  | none => s.pluginsDirectory

/-- The settings as a document. -/
def document (s : Settings) : Document :=
  .record [("pluginsDirectory", .text s.pluginsDirectory),
    ("enabledPlugins", .list (s.enabledPlugins.map .text)),
    ("dragThreshold", .float s.dragThreshold), ("edgeFraction", .float s.edgeFraction),
    ("openPluginManager", .bool s.openPluginManager)]

end Settings

end Docking
