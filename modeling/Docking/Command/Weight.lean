import Docking.Command

/-!
# The weight of commands

Carrying out a command can add to what is still to be done. Every command weighs more than all that
it can add: a window to open weighs more than the report that it is open, and a new tab more than
the three commands that show it.

## Main results

* `totalWeight_flattenAll_le`: taking batches apart adds no weight.
* `steps_batch?`: making one command of several changes nothing about what is to be carried out.
-/

namespace Docking

namespace Command

mutual

/-- The weight of a command. A window that is opened weighs less than the command that asks for it,
and so do the commands that show a new tab. -/
def weight : Command → Nat
  | detachWindow .. => 4
  | instantiate .. => 5
  | batch cs => totalWeight cs + 1
  | _ => 1

/-- The weight of several commands. -/
def totalWeight : List Command → Nat
  | [] => 0
  | c :: rest => c.weight + totalWeight rest

end

@[simp]
theorem totalWeight_append (as bs : List Command) :
    totalWeight (as ++ bs) = totalWeight as + totalWeight bs := by
  induction as with
  | nil => simp [totalWeight]
  | cons c rest ih => simp [totalWeight, ih, Nat.add_assoc]

theorem totalWeight_flattenAll_le_of (cs : List Command)
    (h : ∀ c ∈ cs, totalWeight c.flatten ≤ c.weight) :
    totalWeight (flattenAll cs) ≤ totalWeight cs := by
  induction cs with
  | nil => exact Nat.le_refl _
  | cons c rest ih =>
    rw [flattenAll, totalWeight_append, totalWeight]
    exact Nat.add_le_add (h c (List.mem_cons_self ..))
      (ih fun x hx => h x (List.mem_cons_of_mem _ hx))

theorem totalWeight_flatten_le (c : Command) : totalWeight c.flatten ≤ c.weight := by
  induction c using flatten_induction with
  | nothing => exact Nat.zero_le _
  | single c hself =>
    rw [hself, totalWeight, totalWeight]
    exact Nat.le_refl _
  | batch cs ih =>
    rw [flatten, weight]
    exact Nat.le_succ_of_le (totalWeight_flattenAll_le_of cs ih)

theorem totalWeight_flattenAll_le (cs : List Command) :
    totalWeight (flattenAll cs) ≤ totalWeight cs :=
  totalWeight_flattenAll_le_of cs fun c _ => totalWeight_flatten_le c

/-- The commands that are to be carried out for an optional one. -/
def steps (c : Option Command) : List Command := c.elim [] flatten

theorem flattenAll_append (as bs : List Command) :
    flattenAll (as ++ bs) = flattenAll as ++ flattenAll bs := by
  induction as with
  | nil => rfl
  | cons c rest ih => rw [List.cons_append, flattenAll, flattenAll, ih, List.append_assoc]

theorem eq_nothing_of_isNothing {c : Command} (h : c.isNothing = true) : c = nothing := by
  cases c <;> simp_all [isNothing]

theorem flattenAll_filter (cs : List Command) :
    flattenAll (cs.filter fun c => !c.isNothing) = flattenAll cs := by
  induction cs with
  | nil => rfl
  | cons c rest ih =>
    cases hc : c.isNothing with
    | true => rw [List.filter_cons_of_neg (by simp [hc]), ih, eq_nothing_of_isNothing hc]; rfl
    | false => rw [List.filter_cons_of_pos (by simp [hc]), flattenAll, ih, flattenAll]

/-- Making one command of several changes nothing about what is to be carried out. -/
theorem steps_batch? (cs : List Command) : steps (batch? cs) = flattenAll cs := by
  rw [← flattenAll_filter cs, batch?]
  split
  · next h => simp [h, steps, flattenAll]
  · next c h => simp [h, steps, flattenAll]
  · simp [steps, flatten]

end Command

end Docking
