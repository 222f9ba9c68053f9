import Docking.Files.Basic
import Docking.Settings.Reading

/-!
# Loading settings

Settings are in the file that the user names, or in a file of the user's configuration folder, which
may be absent.
-/

namespace Docking

/-- Why a settings file can not be used. -/
inductive LoadError where
  /-- The file can not be read. -/
  | unreadable
  /-- The file does not hold settings. -/
  | malformed
  deriving DecidableEq, Repr

/-- What the surroundings of the program say about the user's folders. -/
structure Surroundings where
  /-- The folder for configurations, if one is named. -/
  configHome : Option String
  /-- The user's own folder. -/
  home : Option String

namespace Surroundings

/-- The folder of this program within the user's configurations. -/
def configFolder? (s : Surroundings) : Option String :=
  let configs :=
    match s.configHome with
    | some folder => some folder
    | none => s.home.map fun home => Path.join home ".config"
  configs.map fun folder => Path.join folder "dockshell"

/-- The settings file that is used when none is named. -/
def settingsFile? (s : Surroundings) : Option String :=
  s.configFolder?.map fun folder => Path.join folder "settings.json"

/-- The folder in which a relative plugins folder begins: that of the named settings file, or else
that of the configurations. -/
def settingsBase? (s : Surroundings) (named : Option String) : Option String :=
  match named with
  | some path => Path.parent? path
  | none => s.configFolder?

end Surroundings

namespace Settings

variable {m : Type → Type} [Monad m]

/-- The settings in a file. -/
def load (files : Files m) (path : String) : m (Except LoadError Settings) := do
  match ← files.readText path with
  | none => return .error .unreadable
  | some text =>
    match ofFile? path text with
    | none => return .error .malformed
    | some settings => return .ok settings

/-- The settings that are used when no file is named. Without a usable file they are the standard
ones. -/
def loadDefault (files : Files m) (surroundings : Surroundings) : m Settings := do
  match surroundings.settingsFile? with
  | none => return standard
  | some path =>
    match ← load files path with
    | .ok settings => return settings
    | .error _ => return standard

end Settings

end Docking
