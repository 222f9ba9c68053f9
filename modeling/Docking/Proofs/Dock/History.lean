import Mathlib.Data.List.Induction
import Docking.Proofs.Dock.Courses

/-!
# What a run leaves behind

A dock forgets the tabs that it has closed and the commands that somebody has taken. The history of
a run keeps them: the tabs that were opened, the commands that were queued, each with the operation
that queued it, and the windows that were handed back.

## Main definitions

* `Dock.openings`, `Dock.log`, `Dock.released`: the history of a run.
* `Dock.emitted`: the commands that were taken during a run and those that still can be.

## Main results

* `run_book`: what holds of the empty book and is kept along every course holds after every run.
* `emitted_eq`: the log of a run holds the emitted commands, in their order.
-/

namespace Docking

/-- The window that an operation hands back. -/
def Book.handedBack? (b : Book) : Operation → Option Window
  | .dockFloating tab _ => b.window? tab
  | _ => none

namespace Dock

open Layout hiding id

section History

variable {α : Type}

/-- What the operations of a run give, one after another. -/
def gather (f : Dock → Operation → List α) (d : Dock) : List Operation → List α
  | [] => []
  | op :: ops => f d op ++ gather f (d.apply op) ops

theorem gather_concat (f : Dock → Operation → List α) (d : Dock) (ops : List Operation)
    (op : Operation) : d.gather f (ops ++ [op]) = d.gather f ops ++ f (d.run ops) op := by
  induction ops generalizing d with
  | nil => simp [gather, run]
  | cons first ops ih =>
      rw [List.cons_append, gather, gather, ih, List.append_assoc]
      rfl

/-- What a run gives, one of its operations gives. -/
theorem mem_gather {f : Dock → Operation → List α} {d : Dock} {ops : List Operation} {x : α} :
    x ∈ d.gather f ops ↔ ∃ early op late, early ++ op :: late = ops ∧ x ∈ f (d.run early) op := by
  induction ops generalizing d with
  | nil => simp [gather]
  | cons first ops ih =>
      rw [gather, List.mem_append, ih]
      constructor
      · rintro (hx | ⟨early, op, late, rfl, hx⟩)
        · exact ⟨[], first, ops, rfl, hx⟩
        · exact ⟨first :: early, op, late, rfl, hx⟩
      · rintro ⟨early, op, late, hops, hx⟩
        cases early with
        | nil =>
            cases hops
            exact .inl hx
        | cons _ early =>
            cases hops
            exact .inr ⟨early, op, late, rfl, hx⟩

/-- The tab that an operation opens, with its title and its surface. -/
def opened (d : Dock) : Operation → List TabEntry
  | .openTab title surface activate => [⟨(d.openTab title surface activate).1, title, surface⟩]
  | .dockNew title surface target => [⟨(d.dockNew title surface target).1, title, surface⟩]
  | _ => []

/-- All tabs that a run has opened, whether they are still open or not. -/
def openings (d : Dock) (ops : List Operation) : List TabEntry := d.gather opened ops

/-- All commands that a run has queued, each with the operation that queued it. -/
def log (d : Dock) (ops : List Operation) : List (Operation × Command) :=
  d.gather (fun d op => (d.queued op).map (op, ·)) ops

/-- The window that an operation hands back to its caller. -/
def handedBack (d : Dock) : Operation → List Window
  | .dockFloating tab target => (d.dockFloating tab target).1.toList
  | _ => []

/-- All windows that a run has handed back. -/
def released (d : Dock) (ops : List Operation) : List Window := d.gather handedBack ops

/-- The commands that an operation hands out. -/
def handedOut (d : Dock) : Operation → List Command
  | .takeCommands => d.takeCommands.1
  | _ => []

/-- All commands that a run has emitted: those that were taken, and then those that wait. -/
def emitted (d : Dock) (ops : List Operation) : List Command :=
  d.gather handedOut ops ++ (d.run ops).outbox

variable {d : Dock} {l : Layout} {b : Book} (settings : DragSettings) (ops : List Operation)
  (op : Operation)

theorem openings_concat :
    d.openings (ops ++ [op]) = d.openings ops ++ (d.run ops).opened op := gather_concat ..

theorem log_concat :
    d.log (ops ++ [op]) = d.log ops ++ ((d.run ops).queued op).map (op, ·) := gather_concat ..

theorem released_concat :
    d.released (ops ++ [op]) = d.released ops ++ (d.run ops).handedBack op := gather_concat ..

/-! ## One operation -/

/-- A new tab is named by the counter. -/
theorem Keeps.opened_eq (h : d.Keeps l b) :
    d.opened op = op.content?.toList.map fun c => ⟨⟨b.next⟩, c.1, c.2⟩ := by
  have hid : ∀ title surface target activate,
      (d.register title surface target activate).1 = ⟨b.next⟩ := by
    intro title surface target activate
    rw [← h.next]
    rfl
  cases op with
  | openTab title surface activate =>
      rw [opened, openTab, hid]
      rfl
  | dockNew title surface target =>
      rw [opened, dockNew, hid]
      rfl
  | _ => rfl

/-- Docking a floating tab hands its window back. -/
theorem Keeps.handedBack_eq (h : d.Keeps l b) : d.handedBack op = (b.handedBack? op).toList := by
  cases op with
  | dockFloating tab target =>
      have hnone (hitem : (d.item? tab).any Item.isFloating = false) :
          d.handedBack (.dockFloating tab target) = [] := by
        rw [handedBack, dockFloating_of_docked hitem]
        rfl
      rw [Book.handedBack?, Book.window?]
      cases hst : b.stays tab with
      | none => exact hnone (by simp [h.item, hst])
      | some st =>
          cases st with
          | docked panel x => exact hnone (by simp [h.item, hst, Stay.item, Item.isFloating])
          | floating window x =>
              obtain ⟨panel, m, -, hwindow, -⟩ := dockFloating_keeps h hst target
              rw [handedBack, hwindow]
              rfl
  | _ => rfl

/-- What is handed out and what waits afterwards is what waited before and what is queued. -/
theorem Keeps.handedOut_append (h : d.Keeps l b) :
    d.handedOut op ++ (d.apply op).outbox = d.outbox ++ d.queued op := by
  by_cases hop : op = .takeCommands
  · subst hop
    rw [queued]
    simp [handedOut, apply, takeCommands]
  · obtain ⟨more, -, -, hmore, -, -⟩ := apply_turns h hop
    have hnone : d.handedOut op = [] := by
      cases op with
      | takeCommands => exact absurd rfl hop
      | _ => rfl
    rw [hnone, hmore.queued_eq, hmore]
    rfl

/-! ## Runs -/

/-- A dock keeps a book after every run, and what holds of the empty book and is kept along every
course holds of it. -/
theorem run_book {motive : List Operation → Book → Prop} (hnew : motive [] .empty)
    (hstep : ∀ {ops op l b b'}, ((new settings).run ops).Keeps l b → motive ops b →
      Course b op b' (Command.work (((new settings).run ops).queued op)) →
      motive (ops ++ [op]) b') :
    ∃ l b, ((new settings).run ops).Keeps l b ∧ motive ops b := by
  induction ops using List.reverseRecOn with
  | nil => exact ⟨_, _, keeps_new settings, hnew⟩
  | append_singleton ops op ih =>
      obtain ⟨l, b, hkeeps, hmotive⟩ := ih
      obtain ⟨m, b', hkeeps', hcourse⟩ := apply_course hkeeps op
      rw [run_concat]
      exact ⟨m, b', hkeeps', hstep hkeeps hmotive hcourse⟩

/-- After every run a dock keeps a book. -/
theorem run_keeps : ∃ l b, ((new settings).run ops).Keeps l b := by
  obtain ⟨l, b, h, -⟩ := run_book settings ops (motive := fun _ _ => True) trivial
    fun _ _ _ => trivial
  exact ⟨l, b, h⟩

/-- What an operation queues is emitted after all that was emitted before. -/
theorem emitted_concat : (new settings).emitted (ops ++ [op]) =
    (new settings).emitted ops ++ ((new settings).run ops).queued op := by
  obtain ⟨l, b, h⟩ := run_keeps settings ops
  rw [emitted, emitted, run_concat, gather_concat, List.append_assoc, h.handedOut_append,
    List.append_assoc]

/-- The log holds the emitted commands. -/
theorem emitted_eq : (new settings).emitted ops = ((new settings).log ops).map Prod.snd := by
  induction ops using List.reverseRecOn with
  | nil => rfl
  | append_singleton ops op ih =>
      rw [emitted_concat, log_concat, List.map_append, List.map_map, ih]
      exact congrArg _ (List.map_id _).symm

end History

end Dock

end Docking
