import Docking.Command.Weight
import Docking.Dock.Handle

/-!
# What operations queue

An operation only adds to the end of the queue. `Queues d e more` says what it adds; for a new tab
that is a surface to mount and a repaint (`queues_register`).
-/

namespace Docking

namespace Dock

/-- `e` has queued the commands `more` beyond those of `d`. -/
def Queues (d e : Dock) (more : List Command) : Prop := e.outbox = d.outbox ++ more

theorem Queues.trans {d e f : Dock} {as bs : List Command} (h : Queues d e as) (k : Queues e f bs) :
    Queues d f (as ++ bs) := by
  rw [Queues] at *
  rw [k, h, List.append_assoc]

theorem queues_emit (d : Dock) (c : Command) : Queues d (d.emit c) [c] := rfl

theorem queues_finish (d : Dock) : Queues d d.finish [.redraw] := rfl

theorem queues_defaultPanel (d : Dock) : Queues d d.defaultPanel.2 [] := by
  unfold defaultPanel Queues
  split
  · simp
  · split <;> simp

theorem queues_addToPanel (d : Dock) (panel : NodeId) (entry : TabEntry) (activate : Bool) :
    Queues d (d.addToPanel panel entry activate) [] ∨
      ∃ s, Queues d (d.addToPanel panel entry activate) [.destroy s] := by
  unfold addToPanel
  split
  · exact .inl (by simp [Queues])
  · split
    · exact .inr ⟨_, queues_emit ..⟩
    · exact .inl (by simp [Queues])

theorem queues_addToDefault (d : Dock) (entry : TabEntry) (activate : Bool) :
    Queues d (d.defaultPanel.2.addToPanel d.defaultPanel.1 entry activate) [] ∨
      ∃ s, Queues d (d.defaultPanel.2.addToPanel d.defaultPanel.1 entry activate) [.destroy s] := by
  have hd := queues_defaultPanel d
  rcases queues_addToPanel d.defaultPanel.2 d.defaultPanel.1 entry activate with h | ⟨s, h⟩
  · exact .inl (hd.trans h)
  · exact .inr ⟨s, hd.trans h⟩

theorem queues_rehouse (d : Dock) (panel : NodeId) :
    Queues d (d.rehouse panel).2 [] ∨ ∃ s, Queues d (d.rehouse panel).2 [.destroy s] := by
  unfold rehouse
  split
  · exact .inl (by simp [Queues])
  · next tree _ =>
    dsimp only
    split
    · exact .inl (by simp [Queues])
    · split
      · exact .inl (queues_defaultPanel { d with tree })
      · exact queues_addToDefault { d with tree } _ true

theorem queues_splitWith (d : Dock) (entry : TabEntry) (target : NodeId) (orientation : Orientation)
    (newFirst : Bool) :
    Queues d (d.splitWith entry target orientation newFirst).2 [] ∨
      ∃ s, Queues d (d.splitWith entry target orientation newFirst).2 [.destroy s] := by
  unfold splitWith
  simp only
  split
  · exact .inl (by simp [Queues])
  · next tree _ => exact queues_rehouse { d with tree } _

theorem queues_putEntry (d : Dock) (entry : TabEntry) (target : Option DropTarget)
    (activate : Bool) :
    Queues d (d.putEntry entry target activate).2 [] ∨
      ∃ s, Queues d (d.putEntry entry target activate).2 [.destroy s] := by
  unfold putEntry
  split
  · split
    · exact queues_splitWith ..
    · exact queues_addToPanel ..
  · exact queues_addToDefault d entry activate

/-- A new tab is mounted and asks for a repaint. If its panel holds it already, its surface is ended
first. -/
theorem queues_register (d : Dock) (title : String) (surface : Surface)
    (target : Option DropTarget) (activate : Bool) :
    ∃ panel,
      Queues d (d.register title surface target activate).2 [.mount surface.id panel, .redraw] ∨
        ∃ s, Queues d (d.register title surface target activate).2
          [.destroy s, .mount surface.id panel, .redraw] := by
  let d' := { d with nextTab := d.nextTab + 1 }
  let entry : TabEntry := ⟨⟨d.nextTab⟩, title, surface⟩
  refine ⟨(d'.putEntry entry target activate).1, ?_⟩
  rcases queues_putEntry d' entry target activate with h | ⟨s, h⟩
  · exact .inl ((h.trans (queues_emit ..)).trans (queues_finish _))
  · exact .inr ⟨s, (h.trans (queues_emit ..)).trans (queues_finish _)⟩

theorem totalWeight_register (d : Dock) (title : String) (surface : Surface)
    (target : Option DropTarget) (activate : Bool) :
    Command.totalWeight (d.register title surface target activate).2.outbox ≤
      Command.totalWeight d.outbox + 3 := by
  obtain ⟨panel, h | ⟨s, h⟩⟩ := queues_register d title surface target activate <;>
    rw [h] <;> simp [Command.totalWeight, Command.weight]

theorem totalWeight_attachWindow (d : Dock) (tab : TabId) (window : Window) :
    Command.totalWeight (d.attachWindow tab window).2.outbox ≤
      Command.totalWeight d.outbox + 1 := by
  unfold attachWindow
  split
  · simp [setPlacement]
  · simp [emit, Command.totalWeight, Command.weight]

end Dock

end Docking
