import Docking.Proofs.Dock.Repaints
import Docking.Proofs.Shell.Quiescence

/-!
# Batches of commands

Commands can be put into batches, and batches into batches. Three recursions go down such a tree of
commands on their own: one makes a list of it, one asks for repaints, and one carries it out, where
a command may change anything about the shell that the next one meets, and add commands of its own.
They agree, so that it does not matter how commands are grouped.

## Main definitions

* `Command.Flat`: commands without batches among them.
* `Shell.execute`: one command with all that it adds.

## Main results

* `flat_flatten`, `any_flatten_needsRedraw`: the list of a tree, and what it asks for.
* `carryOut_eq_foldl`: an agenda is carried out one command after the other.
* `execute_flatten`: a tree is carried out as its list is.
* `batches_agree`: all of this together, for several commands as one.
-/

namespace Docking

namespace Command

/-- There is no batch among some commands, and none of them is `nothing`. -/
structure Flat (cs : List Command) : Prop where
  nothing : .nothing ∉ cs
  batch : ∀ ds, .batch ds ∉ cs

/-- A batch is larger than the list of its commands, so it is not on that list. -/
theorem batch_notMem_flatten (c : Command) (ds : List Command) : batch ds ∉ c.flatten := by
  intro hmem
  have hself : flattenAll ds = [batch ds] := flatten_of_mem_flatten c (batch ds) hmem
  have hweight := totalWeight_flattenAll_le ds
  rw [hself, totalWeight, totalWeight, weight] at hweight
  omega

theorem flat_flatten (c : Command) : Flat c.flatten where
  nothing hmem := by cases flatten_of_mem_flatten c nothing hmem
  batch := batch_notMem_flatten c

/-- A command asks for a repaint if one of those on its list does. -/
theorem any_flatten_needsRedraw (c : Command) : c.flatten.any needsRedraw = c.needsRedraw := by
  induction c using flatten_induction with
  | nothing => rfl
  | single c hself => rw [hself, List.any_cons, List.any_nil, Bool.or_false]
  | batch cs ih =>
      rw [flatten, flattenAll_eq_flatMap, needsRedraw, anyNeedsRedraw_eq, List.any_flatMap,
        Bool.eq_iff_iff, List.any_eq_true, List.any_eq_true]
      exact exists_congr fun c => and_congr_right fun hc => by rw [ih c hc]

end Command

namespace Shell

variable {η : Type} [WindowHost η]

/-- Carries out one command with all that it adds. -/
def execute (s : Shell η) (c : Command) : Shell η := carryOut [c] s

/-- An agenda is carried out one command after the other. -/
theorem carryOut_eq_foldl (agenda : List Command) (s : Shell η) :
    carryOut agenda s = agenda.foldl execute s := by
  induction agenda generalizing s with
  | nil => exact carryOut_nil s
  | cons c rest ih =>
      rw [List.foldl_cons, ← ih]
      exact carryOut_append [c] rest s

/-- What a command adds is carried out right after it: the commands of a batch, or those that show a
new tab. -/
theorem execute_eq (c : Command) (s : Shell η) :
    s.execute c = (s.perform c).1.foldl execute (s.perform c).2 := by
  rw [execute, carryOut_cons, List.append_nil, carryOut_eq_foldl]

/-- Whatever the commands do to the shell, a tree of commands is carried out as its list is. -/
theorem execute_flatten (c : Command) (s : Shell η) :
    s.execute c = c.flatten.foldl execute s := by
  induction c using Command.flatten_induction generalizing s with
  | nothing => rw [execute_eq, perform, Command.flatten]
  | single c hself => rw [hself, List.foldl_cons, List.foldl_nil]
  | batch cs ih =>
      rw [execute_eq, perform, Command.flatten, Command.flattenAll_eq_flatMap, List.foldl_flatMap]
      exact List.foldl_ext _ _ s fun t c hc => ih c hc t

/-- Several commands are processed as if they were carried out one after the other, but for the
repaint that is counted once for all of them. -/
theorem process_batch? (cs : List Command) (s : Shell η) :
    s.process (Command.batch? cs) = cs.foldl execute (s.countRedraw (Command.batch? cs)) := by
  have hbatch := execute_flatten (.batch cs) (s.countRedraw (Command.batch? cs))
  rw [execute_eq, perform, Command.flatten] at hbatch
  rw [process, Command.steps_batch?, carryOut_eq_foldl, hbatch]

/-- Commands can be put into batches and taken out of them freely. The list of several commands as
one is made of their lists, and has no batch and no `nothing` in it; a command asks for a repaint
exactly if one on its list does; and a command does to any shell what those on its list do one after
the other, also when several commands are processed as one. -/
theorem batches_agree (cs : List Command) (c : Command) (s : Shell η) :
    Command.steps (Command.batch? cs) = cs.flatMap Command.flatten ∧
      Command.Flat (Command.steps (Command.batch? cs)) ∧
      c.needsRedraw = c.flatten.any Command.needsRedraw ∧
      s.execute c = c.flatten.foldl execute s ∧
      s.process (Command.batch? cs) = cs.foldl execute (s.countRedraw (Command.batch? cs)) := by
  have hsteps : Command.steps (Command.batch? cs) = Command.flatten (.batch cs) := by
    rw [Command.steps_batch?, Command.flatten]
  refine ⟨?_, hsteps ▸ Command.flat_flatten _, (Command.any_flatten_needsRedraw c).symm,
    execute_flatten c s, process_batch? cs s⟩
  rw [Command.steps_batch?, Command.flattenAll_eq_flatMap]

end Shell

end Docking
