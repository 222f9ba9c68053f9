import Docking.Proofs.Json.Records
import Docking.Script.Run

/-!
# What a dropped window says arrives

A detached window and the dock share no state: all that the dock learns of a window that is dropped
on it is a text. Whatever plugin and window a payload names, its text is read as that payload again,
so a scripted drop does what the dock does with the plugin and the window of the step.

A payload is written as a record of texts. Its window is left out if there is none, and the reader
takes what is left out as no window; the other name that a window may go by is never written, so no
field is given twice.

## Main results

* `Payload.ofText?_text`: a payload is read as it was written.
* `Payload.text_injective`: payloads that differ have texts that differ.
* `Shell.externalDrop_delivered`: what a scripted drop does.
-/

namespace Docking

namespace Payload

/-- The members that a payload is written with. -/
def members (p : Payload) : List (String × String) :=
  ("pluginName", p.plugin) :: (p.window.map fun w => ("originWindowId", w.name)).toList

theorem document_eq (p : Payload) : p.document = .ofTexts p.members := by
  obtain ⟨plugin, _ | window⟩ := p <;> rfl

/-- The members that are written are those that are looked for, each once. -/
theorem ofJson?_ofTexts_members (p : Payload) : ofJson? (.ofTexts p.members) = some p := by
  obtain ⟨plugin, _ | window⟩ := p <;> rfl

/-- A payload is read as it was written. -/
theorem ofText?_text (p : Payload) : ofText? p.text = some p := by
  rw [ofText?, text, document_eq, Json.parse?_ofTexts, Option.bind_some, ofJson?_ofTexts_members]

/-- Payloads that differ have texts that differ. -/
theorem text_injective : Function.Injective text := by
  intro p q h
  have hread := congrArg ofText? h
  rw [ofText?_text, ofText?_text] at hread
  exact Option.some.inj hread

end Payload

/-- A text that is dropped as a payload does what its payload does. -/
theorem Dock.receive_drop_text (d : Dock) (p : Payload) (point : Point) :
    d.receive (.drop Payload.mime p.text point) = d.externalDrop p point := by
  rw [receive, if_pos rfl, Payload.ofText?_text]

namespace Shell

/-- What is written for a payload is read as the payload again, no two payloads are written alike,
and a scripted drop always succeeds: the dock handles a dropped window with the plugin and the
window of the step, and what it asks for is carried out. -/
theorem externalDrop_delivered :
    (∀ p : Payload, Payload.ofText? p.text = some p) ∧ Function.Injective Payload.text ∧
      ∀ {η : Type} [WindowHost η] (s : Shell η) (plugin : String) (window : Option String)
        (point : Point),
        let handled := (s.dock.externalDrop ⟨plugin, window.map Window.mk⟩ point).takeCommands
        s.attempt (.externalDrop plugin window point) =
          (.ok (), ({ s with dock := handled.2 }.process (Command.batch? handled.1)).settle.2) := by
  refine ⟨Payload.ofText?_text, Payload.text_injective, ?_⟩
  intro η _ s plugin window point
  have hreceive := s.dock.receive_drop_text ⟨plugin, window.map Window.mk⟩ point
  simp only [attempt, stepMessage?, dispatch, react, Dock.handle, hreceive]

end Shell

end Docking
