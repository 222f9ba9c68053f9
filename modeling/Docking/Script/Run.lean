import Docking.Script.Step
import Docking.Shell.Run

/-!
# Running scripts

The steps of a script are carried out in order. A step fails if it needs a tab or a plugin that is
not there, and the steps behind it are not carried out then.
-/

namespace Docking

/-- Why a step can not be carried out. -/
inductive StepError where
  /-- No surface can be made for the plugin now. -/
  | pluginNotAvailable (plugin : String)
  /-- No tab has the title now. -/
  | noSuchTab (title : String)
  deriving DecidableEq, Repr

/-- The wording of a step that failed. -/
def StepError.message : StepError → String
  | pluginNotAvailable plugin => s!"plugin '{plugin}' is not available"
  | noSuchTab title => s!"no tab titled '{title}'"

/-- A script that stopped, at the step of a number that begins with one. -/
structure ScriptError where
  number : Nat
  step : Step
  cause : StepError

namespace ScriptError

/-- Where a script stopped. -/
def context (e : ScriptError) : String := s!"step {e.number} ({e.step.text})"

/-- Where and why a script stopped. -/
def message (e : ScriptError) : String := s!"{e.context}: {e.cause.message}"

end ScriptError

namespace Shell

variable {η : Type}

/-- The tab that a script names. A tab that is named by number need not exist. -/
def findTab (s : Shell η) : TabRef → Except StepError TabId
  | .id tab => .ok tab
  | .title title =>
    match s.dock.findTitle title with
    | some tab => .ok tab
    | none => .error (.noSuchTab title)

/-- The message that a step amounts to, if it is one. -/
def stepMessage? (s : Shell η) : Step → Option (Except StepError Message)
  | .openPlugin .. | .toggle _ => none
  | .press tab point => some ((s.findTab tab).map fun t => .pointerDown t point)
  | .move point => some (.ok (.pointerMove point))
  | .release point => some (.ok (.pointerUp point))
  | .cancel => some (.ok .pointerCancel)
  | .close tab => some ((s.findTab tab).map .close)
  | .activate tab => some ((s.findTab tab).map .activate)
  | .float tab => some ((s.findTab tab).map .float)
  | .nextTab => some (.ok .nextTab)
  | .previousTab => some (.ok .previousTab)
  | .resize width height => some (.ok (.resize (.atOrigin width height)))
  | .dragOver point => some (.ok (.dragOver point))
  | .dragLeave => some (.ok .dragLeave)
  | .externalDrop plugin window point =>
    some (.ok (.drop Payload.mime (Payload.text ⟨plugin, window.map Window.mk⟩) point))

variable [WindowHost η]

/-- Tries to carry out a step. A shell is left behind in either case. -/
def attempt (s : Shell η) (step : Step) : Except StepError Unit × Shell η :=
  match step with
  | .openPlugin plugin activate =>
    match s.openPlugin plugin activate with
    | (some _, s) => (.ok (), s)
    | (none, s) => (.error (.pluginNotAvailable plugin), s)
  | .toggle plugin => (.ok (), (s.togglePlugin plugin).2)
  | step =>
    match s.stepMessage? step with
    | some (.ok m) => (.ok (), (s.dispatch m).2)
    | some (.error e) => (.error e, s)
    | none => (.ok (), s)

/-- Tries the steps one after another until one fails. The first of them has the number `number`. -/
def runFrom (number : Nat) : List Step → Shell η → Except ScriptError Unit × Shell η
  | [], s => (.ok (), s)
  | step :: rest, s =>
    match s.attempt step with
    | (.ok (), s) => runFrom (number + 1) rest s
    | (.error cause, s) => (.error ⟨number, step, cause⟩, s)

/-- Carries out a script. -/
def runScript (s : Shell η) (steps : List Step) : Except ScriptError Unit × Shell η :=
  runFrom 1 steps s

end Shell

end Docking
