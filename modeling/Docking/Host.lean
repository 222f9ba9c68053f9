import Docking.Ident

/-!
# Window hosts

A window host owns the detached windows. The shell asks it to open, to close and to raise windows
and takes its answers as they come; it never undoes a change of the layout because a request failed.

## Main definitions

* `WindowHost`: what a type of hosts has to provide.
* `Headless`: the host without a screen, which only keeps books.
* `Refusing`: a host that opens no windows for some plugins.
-/

namespace Docking

/-- Why a host did not do what it was asked to do. -/
inductive HostError where
  /-- The window could not be opened. -/
  | createFailed (plugin reason : String)
  /-- There is no open window of that name. -/
  | unknownWindow (window : Window)
  /-- What was dragged along can not be read. -/
  | invalidPayload (reason : String)
  deriving DecidableEq, Repr

/-- The wording of a failed request. -/
def HostError.message : HostError → String
  | createFailed plugin reason => s!"failed to open window for {plugin}: {reason}"
  | unknownWindow window => s!"no open window {window.name}"
  | invalidPayload reason => s!"invalid drag payload: {reason}"

/-- A type of window hosts. Every request leaves a host behind, whether it failed or not. -/
class WindowHost (η : Type) where
  /-- Opens a window for a plugin. -/
  create : η → (plugin : String) → Except HostError Window × η
  /-- Closes a window. -/
  close : η → Window → Except HostError Unit × η
  /-- Puts a window in front of the others. -/
  raise : η → Window → Except HostError Unit × η

/-! ## The host without a screen -/

/-- A host whose windows are names in a list. -/
structure Headless where
  /-- How many windows have been opened so far. -/
  created : Nat
  /-- The open windows, oldest first. -/
  windows : List Window
  /-- The window in front of the others. -/
  front : Option Window
  deriving DecidableEq, Repr

namespace Headless

/-- The host that has not opened a window yet. -/
def new : Headless := ⟨0, [], none⟩

/-- The name of the window that is opened as the `n`th one. -/
def nameOf (n : Nat) : Window := ⟨s!"window-{n}"⟩

/-- Opens a window, in front of the others. -/
def create (h : Headless) : Window × Headless :=
  let window := nameOf (h.created + 1)
  (window, ⟨h.created + 1, h.windows ++ [window], some window⟩)

/-- Closes a window. If it was in front, the newest of the others comes to the front. -/
def close (h : Headless) (window : Window) : Except HostError Unit × Headless :=
  if window ∈ h.windows then
    let windows := h.windows.erase window
    (.ok (),
      { h with windows, front := if h.front = some window then windows.getLast? else h.front })
  else (.error (.unknownWindow window), h)

/-- Puts a window in front of the others. -/
def raise (h : Headless) (window : Window) : Except HostError Unit × Headless :=
  if window ∈ h.windows then (.ok (), { h with front := some window })
  else (.error (.unknownWindow window), h)

end Headless

instance : WindowHost Headless where
  create h _ := (.ok h.create.1, h.create.2)
  close := Headless.close
  raise := Headless.raise

/-! ## Refusing windows -/

/-- A host that opens no windows for some plugins. -/
structure Refusing (η : Type) where
  host : η
  /-- The plugins without windows. -/
  refused : List String

instance [WindowHost η] : WindowHost (Refusing η) where
  create h plugin :=
    if plugin ∈ h.refused then (.error (.createFailed plugin "refused"), h)
    else
      let (answer, host) := WindowHost.create h.host plugin
      (answer, { h with host })
  close h w :=
    let (answer, host) := WindowHost.close h.host w
    (answer, { h with host })
  raise h w :=
    let (answer, host) := WindowHost.raise h.host w
    (answer, { h with host })

end Docking
