import Docking.Zone

/-!
# Commands

A dock changes its own state only. What has to happen outside of it, such as showing a surface or
opening a window, it asks for by commands, which the shell carries out in order.

## Main definitions

* `Command.batch`: several commands as one.
* `Command.flatten`: one command as the list of what it asks for.
* `Command.needsRedraw`: whether a command asks for a repaint.

## Main results

* `Command.flatten_induction`: induction over commands and the batches of them.
-/

namespace Docking

/-- Something that has to happen outside of the dock. -/
inductive Command where
  /-- Nothing at all. -/
  | nothing
  /-- Paint the dock again. -/
  | redraw
  /-- Show a surface in a panel. -/
  | mount (surface : SurfaceId) (panel : NodeId)
  /-- Stop showing a surface. -/
  | unmount (surface : SurfaceId)
  /-- End a surface for good. -/
  | destroy (surface : Surface)
  /-- Open a window for a floating tab. -/
  | detachWindow (tab : TabId) (plugin : String)
  /-- Close a window. -/
  | closeWindow (window : Window)
  /-- Put a window in front of the others. -/
  | raiseWindow (window : Window)
  /-- Make a new tab of a plugin and dock it, by default in the default panel. -/
  | instantiate (plugin : String) (target : Option DropTarget)
  /-- Several commands in order. -/
  | batch (commands : List Command)

namespace Command

instance : Inhabited Command := ⟨nothing⟩

/-- Whether a command is `nothing`. -/
def isNothing : Command → Bool
  | nothing => true
  | _ => false

/-- Several commands as one: none for an empty list, the command itself if there is only one.
Commands that are `nothing` do not count. -/
def batch? (commands : List Command) : Option Command :=
  match commands.filter (fun c => !c.isNothing) with
  | [] => none
  | [c] => some c
  | cs => some (batch cs)

mutual

/-- Whether a command asks for a repaint. Window commands concern other windows, and a new tab asks
for its own repaint when it is docked. -/
def needsRedraw : Command → Bool
  | redraw | mount .. | unmount _ | destroy _ => true
  | nothing | detachWindow .. | closeWindow _ | raiseWindow _ | instantiate .. => false
  | batch cs => anyNeedsRedraw cs

/-- Whether one of several commands asks for a repaint. -/
def anyNeedsRedraw : List Command → Bool
  | [] => false
  | c :: rest => c.needsRedraw || anyNeedsRedraw rest

end

mutual

/-- What a command asks for, in order and without batches. -/
def flatten : Command → List Command
  | nothing => []
  | batch cs => flattenAll cs
  | c => [c]

/-- What several commands ask for. -/
def flattenAll : List Command → List Command
  | [] => []
  | c :: rest => c.flatten ++ flattenAll rest

end

/-- What holds of `nothing`, of every command that is its own list, and of a batch of commands of
which it holds, holds of every command. -/
theorem flatten_induction {motive : Command → Prop} (nothing : motive nothing)
    (single : ∀ c, c.flatten = [c] → motive c)
    (batch : ∀ cs, (∀ c ∈ cs, motive c) → motive (batch cs)) : ∀ c, motive c
  | .nothing => nothing
  | .batch cs => batch cs fun c _ => flatten_induction nothing single batch c
  | .redraw | .mount .. | .unmount _ | .destroy _ | .detachWindow .. | .closeWindow _
  | .raiseWindow _ | .instantiate .. => single _ (by simp [flatten])

theorem flattenAll_eq_flatMap (cs : List Command) : flattenAll cs = cs.flatMap flatten := by
  induction cs with
  | nil => rfl
  | cons c rest ih => rw [flattenAll, ih, List.flatMap_cons]

end Command

end Docking
