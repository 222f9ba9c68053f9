import Docking.Dock.Check
import Docking.Proofs.Dock.Steps
import Docking.Proofs.Tree.Survey
import Mathlib.Data.List.Induction

/-!
# When the check of a dock passes

The check of a dock has one rule that operations can break: a panel besides the root may be left
empty. It is broken by a tab that is docked at an edge of an empty panel, which is the root then,
since the split that takes the place of the root keeps the empty panel. The next tab that is taken
out mends it.

## Main results

* `Sound.check_eq_ok_iff`: the check of a sound dock passes if panels below splits are filled.
* `run_check_iff`: the runs that pass the check at every step.
-/

namespace Docking

namespace Dock

open Layout hiding id

/-- An operation that docks a tab at an edge of an empty panel. -/
def SplitsEmpty (d : Dock) (op : Operation) : Prop :=
  ∃ t ∈ d.docking op, t.zone ≠ .center ∧ ∃ p, d.tree.panel? t.panel = some p ∧ p.isEmpty

section Checking

variable {d : Dock} {l : Layout}

theorem strayItem?_eq_none (h : d.Sound l) : d.strayItem? = none := by
  have hfind : d.items.values.find? (fun i => !d.isShown i) = none := by
    rw [List.find?_eq_none]
    intro i hi
    have hitem := h.item?_of_mem_values hi
    suffices hshown : d.isShown i by simp [hshown]
    unfold isShown
    cases hpanel : i.panel? with
    | none => rfl
    | some panel =>
        have hdocked : d.panelOf? i.id = some panel := by
          rw [panelOf?, hitem, Option.bind_some, hpanel]
        obtain ⟨p, hp, htab⟩ := h.exists_panel hdocked
        simp only [h.holds.panel?_of_mem hp, Option.any_some]
        exact Panel.contains_iff.2 htab
  rw [strayItem?, hfind]

theorem strayTab?_eq_none (h : d.Sound l) : d.strayTab? = none := by
  rw [strayTab?, List.findSome?_eq_none_iff]
  intro id hid
  cases hpanel : d.tree.panel? id with
  | none => rfl
  | some p =>
      have hfind : p.tabIds.find? (fun tab => d.panelOf? tab != some id) = none := by
        rw [List.find?_eq_none]
        intro tab htab
        have hs : l.Shows id tab := ⟨p, h.holds.panel?_eq_some_iff.1 hpanel, htab⟩
        simp [h.shown.2 hs]
      simp only [hfind, Option.map_none]

/-- What the check says of a sound dock is what it says of the tree. -/
theorem Sound.check_eq (h : d.Sound l) : d.check = d.tree.check := by
  rw [check, strayItem?_eq_none h, strayTab?_eq_none h]
  cases d.tree.check <;> rfl

/-- The check of a sound dock passes, or there is an empty panel besides the root. -/
theorem Sound.check_eq_ok_iff (h : d.Sound l) : d.check = .ok () ↔ l.Filled := by
  rw [h.check_eq]
  constructor
  · intro hok
    by_contra hempty
    obtain ⟨id, herror⟩ := h.holds.check_error h.tidy hempty
    rw [herror] at hok
    cases hok
  · exact h.holds.check_ok h.tidy

theorem Sound.filled_iff (h : d.Sound l) : l.Filled ↔
    ∀ id p, d.tree.panel? id = some p → p.isEmpty → id = d.tree.root := by
  rw [h.holds.root]
  constructor
  · intro hl id p hp he
    exact hl _ (h.holds.panel?_eq_some_iff.1 hp) he
  · intro hl x hx he
    exact hl x.1 x.2 (h.holds.panel?_of_mem hx) he

/-- An operation on a dock that passes the check leads to one that passes it, unless it docks a tab
at an edge of an empty panel. -/
theorem Sound.check_apply_iff (h : d.Sound l) (hcheck : d.check = .ok ()) (op : Operation) :
    (d.apply op).check = .ok () ↔ ¬ d.SplitsEmpty op := by
  obtain ⟨m, hm, hfilled⟩ := apply_follows h op
  have hsplits : l.SplitsEmpty (d.docking op) ↔ d.SplitsEmpty op := by
    simp only [Layout.SplitsEmpty, SplitsEmpty, h.holds.panel?_eq_some_iff]
  rw [hm.check_eq_ok_iff, hfilled (h.check_eq_ok_iff.1 hcheck), hsplits]

/-- A dock passes the check after a run if and only if every panel besides the root holds a tab.
From there an operation leads to a dock that does not pass it if and only if it docks a tab at an
edge of an empty panel. So a run passes the check at every step exactly if it never does that. -/
theorem run_check_iff (settings : DragSettings) (ops : List Operation) :
    (((new settings).run ops).check = .ok () ↔
      ∀ id p, ((new settings).run ops).tree.panel? id = some p → p.isEmpty →
        id = ((new settings).run ops).tree.root) ∧
    (((new settings).run ops).check = .ok () → ∀ op,
      (((new settings).run ops).apply op).check = .ok () ↔
        ¬ ((new settings).run ops).SplitsEmpty op) ∧
    ((∀ before, before <+: ops → ((new settings).run before).check = .ok ()) ↔
      ∀ before op, before ++ [op] <+: ops → ¬ ((new settings).run before).SplitsEmpty op) := by
  have hsound := run_sound settings
  refine ⟨?_, ?_, ?_, ?_⟩
  · obtain ⟨l, h⟩ := hsound ops
    rw [h.check_eq_ok_iff, h.filled_iff]
  · intro hcheck op
    obtain ⟨l, h⟩ := hsound ops
    exact h.check_apply_iff hcheck op
  · intro hall before op hprefix
    obtain ⟨l, h⟩ := hsound before
    have hbefore := hall before ((List.prefix_append ..).trans hprefix)
    rw [← h.check_apply_iff hbefore op, ← run_concat]
    exact hall _ hprefix
  · intro hnever before
    -- the check holds of every longer and longer part of the run
    induction before using List.reverseRecOn with
    | nil =>
        intro _
        refine (sound_new settings).check_eq_ok_iff.2 fun x hx _ => ?_
        rw [panels, List.mem_singleton] at hx
        rw [hx]
        rfl
    | append_singleton before op ih =>
        intro hprefix
        obtain ⟨l, h⟩ := hsound before
        have hbefore := ih ((List.prefix_append ..).trans hprefix)
        rw [run_concat, h.check_apply_iff hbefore op]
        exact hnever before op hprefix

example : ((new .standard).run [.dockNew "A" ⟨⟨1⟩, "p"⟩ (some ⟨⟨1⟩, .left⟩)]).check =
    .error (.emptyPanel ⟨1⟩) := by
  rfl

end Checking

end Dock

end Docking
