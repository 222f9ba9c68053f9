import Docking.CommandLine.Arguments
import Docking.CommandLine.Viewport
import Docking.Plugin.Loading
import Docking.Script.Reading
import Docking.Script.Run
import Docking.Settings.Loading
import Docking.Tree.Outline
import Docking.Yaml.Writing

/-!
# The program

The program starts a shell, carries out a script, and prints the layout that is left. It reads its
settings, the manifests of the plugins and the script from files.

## Main definitions

* `Program.run`: the program, over any file system.
* `Outcome`: what it prints and how it ends.
-/

namespace Docking

/-- Why the program failed. -/
inductive ProgramError where
  | viewport (error : CommandLine.SizeError)
  | settings (path : String) (error : LoadError)
  | scriptUnreadable (path : String)
  | scriptMalformed (path : String)
  | script (error : ScriptError)

/-- The wording of a failure, without its causes. -/
def ProgramError.message : ProgramError → String
  | viewport e => e.message
  | settings path .unreadable => s!"Failed to read settings at {path}"
  | settings path .malformed => s!"Failed to parse settings at {path}"
  | scriptUnreadable path => s!"Failed to read script {path}"
  | scriptMalformed path => s!"In script {path}"
  | script e => e.context

/-- The cause of a failure, where there is one to tell. -/
def ProgramError.cause? : ProgramError → Option String
  | scriptMalformed _ => some "Failed to parse script"
  | script e => some e.cause.message
  | _ => none

/-- What the program prints and how it ends. -/
inductive Outcome where
  /-- The layout is printed, and the windows that are open are named. -/
  | finished (layout : String) (windows : List Window)
  | version
  | help
  | usage (error : CommandLine.UsageError)
  | failed (error : ProgramError)

namespace Program

/-- The size of the dock when none is given. -/
def defaultViewport : String := "1200x800"

/-- The name and the version of the program. -/
def versionText : String := "dockshell 0.1.0"

/-- What the program says about itself. -/
def helpText : String :=
  String.join ([
    "A docking shell for plugin panels",
    "",
    "  --settings <PATH>  settings file, JSON or YAML by its extension",
    "  --plugins <DIR>    plugins directory",
    "  --script <PATH>    YAML script that is carried out after the start",
    "  --viewport <WxH>   size of the docking area",
    "  --format <FORMAT>  how the layout is printed: tree, json or yaml",
    "  -h, --help         print this text",
    "  -V, --version      print the version"].map (· ++ "\n"))

/-- A layout as it is printed. -/
def layoutText (s : Snapshot) : CommandLine.OutputFormat → String
  | .tree => s.outline
  | .json => s.document.prettyJson ++ "\n"
  | .yaml => s.document.yaml

/-- What a shell prints at the end. -/
def report (shell : Shell Headless) (format : CommandLine.OutputFormat) : Outcome :=
  .finished ((shell.dock.tree.snapshot?.map fun s => layoutText s format).getD "")
    shell.host.windows

variable {m : Type → Type} [Monad m]

/-- The settings: those of the named file, which must be usable, or the default ones. -/
def loadSettings (files : Files m) (surroundings : Surroundings) (named : Option String) :
    m (Except ProgramError Settings) := do
  match named with
  | none => return .ok (← Settings.loadDefault files surroundings)
  | some path => return (← Settings.load files path).mapError (.settings path)

/-- The folder of the plugins: the named one, or that of the settings. -/
def pluginsFolder (surroundings : Surroundings) (options : CommandLine.Options)
    (settings : Settings) : String :=
  match options.plugins with
  | some folder => folder
  | none => settings.resolvePlugins (surroundings.settingsBase? options.settings)

/-- The shell before anything has happened. -/
def newShell (settings : Settings) (manifests : List Manifest) : Shell Headless :=
  .new settings .new (.new manifests settings.enabledPlugins)

/-- Carries out the script in a file. -/
def runScript (files : Files m) (shell : Shell Headless) (path : String) :
    m (Except ProgramError (Shell Headless)) := do
  match ← files.readText path with
  | none => return .error (.scriptUnreadable path)
  | some text =>
    match Script.ofYaml? text with
    | none => return .error (.scriptMalformed path)
    | some steps =>
      match shell.runScript steps with
      | (.ok (), shell) => return .ok shell
      | (.error e, _) => return .error (.script e)

/-- Runs the shell that the options ask for. -/
def runShell (files : Files m) (surroundings : Surroundings) (options : CommandLine.Options) :
    m (Except ProgramError (Shell Headless)) := do
  match CommandLine.readViewport (options.viewport.getD defaultViewport) with
  | .error e => return .error (.viewport e)
  | .ok area =>
    match ← loadSettings files surroundings options.settings with
    | .error e => return .error e
    | .ok settings =>
      let manifests ← Manifest.loadAll files (pluginsFolder surroundings options settings)
      let shell := (newShell settings manifests).startup area
      match options.script with
      | none => return .ok shell
      | some path => runScript files shell path

/-- Runs the program. -/
def run (files : Files m) (surroundings : Surroundings) (arguments : List String) : m Outcome := do
  match CommandLine.Request.ofArguments arguments with
  | .error e => return .usage e
  | .ok .version => return .version
  | .ok .help => return .help
  | .ok (.run options) =>
    match ← runShell files surroundings options with
    | .error e => return .failed e
    | .ok shell => return report shell (options.format.getD .tree)

end Program

namespace Outcome

/-- The number with which the program ends. -/
def code : Outcome → Nat
  | finished .. | version | help => 0
  | failed _ => 1
  | usage _ => 2

/-- What the program prints as its result. -/
def output : Outcome → String
  | finished layout _ => layout
  | version => Program.versionText ++ "\n"
  | help => Program.helpText
  | usage _ | failed _ => ""

/-- The lines that the program prints beside its result. -/
def notes : Outcome → List String
  | finished _ windows => windows.map fun w => s!"floating window: {w.name}"
  | version | help => []
  | usage e => [s!"error: {e.message}"]
  | failed e =>
    s!"Error: {e.message}" ::
      (e.cause?.map fun cause => ["", "Caused by:", s!"    {cause}"]).getD []

end Outcome

end Docking
