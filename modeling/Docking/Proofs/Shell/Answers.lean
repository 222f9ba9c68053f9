import Docking.Proofs.Host.Headless
import Docking.Shell.Basic

/-!
# What hosts answer

Whatever a host answers to a request, only the reports and the errors of the shell can change,
beside the host itself.

The windows of a headless host are a list, and the host opens a window unless the plugin is one of
those that it refuses. Here it is said once what the requests of a shell do to the windows that are
open and to the errors that were recorded.

## Main results

* `recordAnswer_same`, `openWindow_same`: what a request can change at all.
* `closeWindow_of_mem`, `closeWindow_of_notMem`, `raiseWindow_of_mem`: requests for a window.
* `openWindow_of_mem`, `openWindow_of_notMem`: a window is refused or opened.
-/

namespace Docking

namespace Shell

section Requests

variable {η : Type} (s : Shell η)

theorem recordAnswer_same (answer : Except HostError Unit × η) :
    s.recordAnswer answer = { s with
      host := (s.recordAnswer answer).host
      hostErrors := (s.recordAnswer answer).hostErrors } := by
  unfold recordAnswer
  split <;> rfl

theorem openWindow_same [WindowHost η] (tab : TabId) (plugin : String) :
    s.openWindow tab plugin = { s with
      host := (s.openWindow tab plugin).host
      inbox := (s.openWindow tab plugin).inbox
      hostErrors := (s.openWindow tab plugin).hostErrors } := by
  unfold openWindow
  split <;> rfl

end Requests

variable (s : Shell (Refusing Headless)) {window : Window} (tab : TabId) {plugin : String}

/-- The windows that are open. -/
def windows : List Window := s.host.host.windows

/-- The shell over a host that has opened `created` windows so far. -/
def withHost (created : Nat) (windows : List Window) (front : Option Window) :
    Shell (Refusing Headless) :=
  { s with host := ⟨⟨created, windows, front⟩, s.host.refused⟩ }

/-- The shell with one more error. -/
def withError (e : HostError) : Shell (Refusing Headless) :=
  { s with hostErrors := s.hostErrors ++ [e] }

/-- An open window is closed. -/
theorem closeWindow_of_mem (h : window ∈ s.windows) :
    ∃ front, (s.perform (.closeWindow window)).2 =
      s.withHost s.host.host.created (s.windows.erase window) front := by
  have hopen : window ∈ s.host.host.windows := h
  simp only [perform, recordAnswer, WindowHost.close, Headless.close, if_pos hopen]
  exact ⟨_, rfl⟩

/-- A window that is not open is not closed. -/
theorem closeWindow_of_notMem (h : window ∉ s.windows) :
    (s.perform (.closeWindow window)).2 = s.withError (.unknownWindow window) := by
  have hnot : window ∉ s.host.host.windows := h
  simp only [perform, recordAnswer, WindowHost.close, Headless.close, if_neg hnot]
  rfl

/-- An open window is raised. -/
theorem raiseWindow_of_mem (h : window ∈ s.windows) :
    (s.perform (.raiseWindow window)).2 =
      s.withHost s.host.host.created s.windows (some window) := by
  have hopen : window ∈ s.host.host.windows := h
  simp only [perform, recordAnswer, WindowHost.raise, Headless.raise, if_pos hopen]
  rfl

/-- A window for a plugin is refused. -/
theorem openWindow_of_mem (h : plugin ∈ s.host.refused) :
    (s.perform (.detachWindow tab plugin)).2 = s.withError (.createFailed plugin "refused") := by
  simp only [perform, openWindow, WindowHost.create, if_pos h]
  rfl

/-- A window for a plugin is opened, and will be reported. -/
theorem openWindow_of_notMem (h : plugin ∉ s.host.refused) :
    ∃ front, (s.perform (.detachWindow tab plugin)).2 =
      { s.withHost (s.host.host.created + 1)
          (s.windows ++ [Headless.nameOf (s.host.host.created + 1)]) front with
        inbox := s.inbox ++ [(tab, Headless.nameOf (s.host.host.created + 1))] } := by
  simp only [perform, openWindow, WindowHost.create, if_neg h]
  exact ⟨_, rfl⟩

end Shell

end Docking
