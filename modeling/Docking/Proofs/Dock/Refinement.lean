import Docking.Proofs.Dock.Checking
import Docking.Proofs.Dock.Moves

/-!
# Operations of a dock are edits of an ordinary tree

On a dock that passes the check, what closing, floating and moving a tab do to the table of nodes is
what `Layout.drop` and `Layout.put` do to an ordinary tree. These are recursive functions that keep
everything outside of the place that they change, so nothing else is different.

## Main results

* `exists_layout_refines`: the layout of a dock after a tab is closed, floated or moved.
-/

namespace Docking

namespace Layout

/-- The layout after a tab has been put at a target: at the end of the panel, or in a panel `new` of
its own below a split `split`. -/
def put (l : Layout) (target : DropTarget) (split new : NodeId) (entry : TabEntry) : Layout :=
  match target.zone.orientation? with
  | none => l.join target.panel entry true
  | some o => l.splitOff target.panel split new o target.zone.newFirst entry

end Layout

namespace Dock

open Layout hiding id

section Refinement

variable {d e : Dock} {l m : Layout} {tab : TabId} {target : DropTarget} {source panel : NodeId}
  {p q : Panel} {entry : TabEntry}

/-- A move on a filled layout drops the tab and puts it at the target. -/
private theorem Moved.eq_put (h : d.Sound l) (hfilled : l.Filled)
    (k : d.Moved e l m entry target source panel p q) :
    (∃ r, (target.panel, r) ∈ (l.drop entry.id).panels) ∧
      m = (l.drop entry.id).put target ⟨d.tree.nextNode + 1⟩ ⟨d.tree.nextNode⟩ entry := by
  have htab : entry.id ∈ p.tabIds := List.mem_map.2 ⟨entry, k.mem, rfl⟩
  have hdrop := vacate_eq_drop h.tidy h.nodup hfilled k.leaves htab
  -- only the root can be empty, and then no tab is docked that could be moved
  have hne : q.isEmpty = false := by
    rw [Bool.eq_false_iff]
    intro he
    obtain ⟨-, rfl⟩ := Prod.mk.inj (hfilled.eq_of_isEmpty h.nodup k.aims he k.leaves)
    rw [not_isEmpty_of_mem htab] at he
    cases he
  obtain ⟨r, hr⟩ := (k.exists_target_iff h).2 (.inl hne)
  have hlands := k.lands
  rw [hdrop] at hr hlands
  refine ⟨⟨r, hr⟩, ?_⟩
  obtain ⟨place, zone⟩ := target
  unfold put
  cases hlands with
  | center hp hzone => rw [hzone]
  | edge hp hzone => rw [hzone]
  | fallback hp hgone => exact absurd hr (hgone _ rfl r)

/-- On a dock that passes the check, closing or floating a docked tab drops it from the layout, and
a move that is not refused drops the tab and puts it at the target. A move to an edge makes two
nodes, which get names that no node had. -/
theorem exists_layout_refines (hd : d.Reachable) (hcheck : d.check = .ok ()) :
    ∃ l, d.tree.layout? = some l ∧
      (∀ tab, (d.panelOf? tab).isSome →
        (d.closeTab tab).tree.layout? = some (l.drop tab) ∧
        (d.floatTab tab).tree.layout? = some (l.drop tab)) ∧
      ∀ tab target, (d.moveTab tab target).1 = true →
        ∃ entry new split, entry.id = tab ∧ (∃ x ∈ l.panels, entry ∈ x.2.tabs) ∧
          (∃ r, (target.panel, r) ∈ (l.drop tab).panels) ∧
          new ≠ split ∧ d.tree.contains new = false ∧ d.tree.contains split = false ∧
          (d.moveTab tab target).2.tree.layout? =
            some ((l.drop tab).put target split new entry) := by
  obtain ⟨l, h⟩ := hd.sound
  have hfilled : l.Filled := h.check_eq_ok_iff.1 hcheck
  refine ⟨l, h.holds.layout?_eq, ?_, ?_⟩
  · intro tab hdocked
    obtain ⟨panel, hpanel⟩ := Option.isSome_iff_exists.1 hdocked
    refine ⟨?_, ?_⟩
    · obtain ⟨p, entry, u, hclose, hp, hentry, hid, -, hm⟩ := closeTab_eq h hpanel
      have htab : tab ∈ p.tabIds := List.mem_map.2 ⟨entry, hentry, hid⟩
      rw [hclose, ← vacate_eq_drop h.tidy h.nodup hfilled hp htab]
      exact hm.layout?_eq
    · obtain ⟨i, p, entry, u, -, hfloat, hp, hentry, hid, hm⟩ := floatTab_eq h hpanel
      have htab : tab ∈ p.tabIds := List.mem_map.2 ⟨entry, hentry, hid⟩
      rw [hfloat, ← vacate_eq_drop h.tidy h.nodup hfilled hp htab]
      exact hm.layout?_eq
  · intro tab target hmoved
    rcases moveTab_eq h tab target with hmove | ⟨e, m, entry, source, panel, p, q, hmove, rfl, k⟩
    · rw [hmove] at hmoved
      cases hmoved
    · obtain ⟨hplace, hm⟩ := k.eq_put h hfilled
      refine ⟨entry, ⟨d.tree.nextNode⟩, ⟨d.tree.nextNode + 1⟩, rfl, ⟨_, k.leaves, k.mem⟩, hplace,
        ?_, h.not_contains (Nat.le_refl _), h.not_contains (Nat.le_succ _), ?_⟩
      · simp
      · rw [hmove, ← hm]
        exact k.holds.layout?_eq

/-- A dock with two panels, one of them with two tabs. -/
def twoPanels : Dock :=
  (new .standard).run [
    .openTab "A" ⟨⟨1⟩, "p"⟩ true,
    .openTab "B" ⟨⟨2⟩, "p"⟩ true,
    .dockNew "C" ⟨⟨3⟩, "p"⟩ (some ⟨⟨1⟩, .right⟩)]

/-- The tab that is alone is closed, floated or moved below the other panel, which is the root then.
-/
theorem twoPanels_refines :
    twoPanels.check = .ok () ∧ ∃ l, twoPanels.tree.layout? = some l ∧
      (twoPanels.closeTab ⟨3⟩).tree.layout? = some (l.drop ⟨3⟩) ∧
      (twoPanels.floatTab ⟨3⟩).tree.layout? = some (l.drop ⟨3⟩) ∧
      ∃ entry new split, entry.id = ⟨3⟩ ∧
        (twoPanels.moveTab ⟨3⟩ ⟨⟨1⟩, .bottom⟩).2.tree.layout? =
          some ((l.drop ⟨3⟩).put ⟨⟨1⟩, .bottom⟩ split new entry) := by
  have hcheck : twoPanels.check = .ok () := by rfl
  have hdocked : (twoPanels.panelOf? ⟨3⟩).isSome := by rfl
  have hmoved : (twoPanels.moveTab ⟨3⟩ ⟨⟨1⟩, .bottom⟩).1 = true := by rfl
  obtain ⟨l, hl, hout, hmove⟩ := exists_layout_refines ⟨_, _, rfl⟩ hcheck
  obtain ⟨entry, new, split, hid, -, -, -, -, -, hput⟩ := hmove ⟨3⟩ ⟨⟨1⟩, .bottom⟩ hmoved
  exact ⟨hcheck, l, hl, (hout ⟨3⟩ hdocked).1, (hout ⟨3⟩ hdocked).2, entry, new, split, hid, hput⟩

end Refinement

end Dock

end Docking
