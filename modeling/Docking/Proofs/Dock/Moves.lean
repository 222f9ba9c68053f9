import Docking.Proofs.Dock.Steps

/-!
# Where a moved tab arrives

A move looks for the panel of its target before it takes the tab out, and places the tab after that.
In between empty panels are removed. So a move that is not refused brings the tab where it was asked
to, if the target panel holds a tab beforehand or no other tab is docked. Otherwise the target panel
is empty and goes away, and the tab ends up in the default panel.

## Main results

* `Moved.exists_target_iff`: when the target panel outlives the departure of the tab.
* `moveTab_arrived_iff`: when a move brings the tab to its target, and what happens else.
-/

namespace Docking

namespace Layout

/-- What a tree says of a tab that has a panel of its own beside another panel. -/
theorem link_splitOff {t : Tree} {l : Layout} {target id new : NodeId} {p : Panel} {o : Orientation}
    {first : Bool} {entry : TabEntry} (h : t.Holds (l.splitOff target id new o first entry))
    (hl : l.ids.Nodup) (hp : (target, p) ∈ l.panels) :
    (∃ q, t.link? id = some ⟨q, .split
      (.pair o (if first then new else target) (if first then target else new))⟩) ∧
      t.link? new = some ⟨some id, .panel (.single entry)⟩ ∧
      t.link? target = some ⟨some id, .panel p⟩ :=
  h.link_beside hl hp

end Layout

namespace Dock

open Layout hiding id

/-- The tab is where `target` asked for: last and active in the target panel, or alone in a new
panel beside the target panel, on the side that the zone names. -/
def Arrived (d e : Dock) (tab : TabId) (target : DropTarget) : Prop :=
  match target.zone.orientation? with
  | none => ∃ p, e.tree.panel? target.panel = some p ∧ p.tabIds.getLast? = some tab ∧
      p.active = some tab
  | some o => ∃ new split entry, d.tree.contains new = false ∧ entry.id = tab ∧
      e.tree.panel? new = some (.single entry) ∧ (e.tree.panel? target.panel).isSome ∧
      e.tree.parent? new = some split ∧ e.tree.parent? target.panel = some split ∧
      e.tree.split? split = some (.pair o
        (if target.zone.newFirst then new else target.panel)
        (if target.zone.newFirst then target.panel else new))

section Moves

variable {d e : Dock} {l m : Layout} {tab : TabId} {target : DropTarget} {source panel : NodeId}
  {p q : Panel} {entry : TabEntry}

/-- The target panel of a move outlives the departure of the tab if it holds a tab, or if no other
tab is docked. -/
theorem Moved.exists_target_iff (h : d.Sound l)
    (k : d.Moved e l m entry target source panel p q) :
    (∃ r, (target.panel, r) ∈ (l.vacate source (p.without entry.id)).panels) ↔
      q.isEmpty = false ∨ ∀ j t, l.Shows j t → t = entry.id := by
  refine exists_mem_vacate_iff h.tidy h.nodup h.lone k.leaves (List.mem_map.2 ⟨entry, k.mem, rfl⟩)
    k.aims ?_
  intro hsource
  have hmany := tabIds_ne_singleton k.elsewhere hsource entry.id
  have hq : (source, q) ∈ l.panels := hsource ▸ k.aims
  rwa [panel_unique h.nodup hq k.leaves] at hmany

/-- A tab that is added to a panel and shown is last and active. -/
private theorem push_true (p : Panel) (entry : TabEntry) :
    (p.push entry true).tabIds.getLast? = some entry.id ∧
      (p.push entry true).active = some entry.id := by
  rw [Panel.tabIds_push]
  exact ⟨by simp, rfl⟩

/-- A tab that has joined a panel is last and active there. -/
private theorem exists_panel_of_join (hm : e.tree.Holds (l.join panel entry true))
    (hl : l.ids.Nodup) (hp : (panel, p) ∈ l.panels) :
    ∃ r, e.tree.panel? panel = some r ∧ r.tabIds.getLast? = some entry.id ∧
      r.active = some entry.id := by
  have hmem : (panel, p.push entry true) ∈ (l.join panel entry true).panels :=
    (mem_panels_graft hl hp).2 (.inr (by simp [panels]))
  exact ⟨p.push entry true, hm.panel?_of_mem hmem, push_true p entry⟩

/-- Where the target panel is still there, the tab arrives. -/
private theorem Moved.arrived (h : d.Sound l) (k : d.Moved e l m entry target source panel p q)
    {r : Panel} (hr : (target.panel, r) ∈ (l.vacate source (p.without entry.id)).panels) :
    d.Arrived e entry.id target := by
  obtain ⟨place, zone⟩ := target
  have hm := k.holds
  unfold Arrived
  cases k.lands with
  | center hp hzone =>
      rw [hzone]
      exact exists_panel_of_join hm k.nodup hp
  | edge hp hzone =>
      rw [hzone]
      obtain ⟨⟨_, hsplit⟩, hnew, hold⟩ := link_splitOff hm k.nodup hp
      refine ⟨⟨d.tree.nextNode⟩, ⟨d.tree.nextNode + 1⟩, entry, h.not_contains (Nat.le_refl _), rfl,
        ?_⟩
      have hplace := Tree.panel?_eq_some_iff.2 ⟨_, hold⟩
      refine ⟨Tree.panel?_eq_some_iff.2 ⟨_, hnew⟩, by rw [hplace]; rfl, ?_, ?_,
        Tree.split?_eq_some_iff.2 ⟨_, hsplit⟩⟩
      · rw [Tree.parent?_eq, hnew]
        rfl
      · rw [Tree.parent?_eq, hold]
        rfl
  | fallback hp hgone => exact absurd hr (hgone _ rfl r)

/-- Where the target panel has gone away, the tab is last and active in another panel. -/
private theorem Moved.strayed (k : d.Moved e l m entry target source panel p q)
    (hgone : ∀ r, (target.panel, r) ∉ (l.vacate source (p.without entry.id)).panels) :
    e.tree.panel? target.panel = none ∧ ∃ r, e.panelOf? entry.id = some panel ∧
      e.tree.panel? panel = some r ∧ r.tabIds.getLast? = some entry.id ∧
      r.active = some entry.id := by
  obtain ⟨place, zone⟩ := target
  have hm := k.holds
  obtain ⟨i, hitem, -⟩ := panelOf?_eq_some_iff.1 k.docked
  have hpanel : e.panelOf? entry.id = some panel := by
    rw [k.same, panelOf?]
    show ((d.setPlacement entry.id (.docked panel)).item? entry.id).bind Item.panel? = some panel
    rw [item?_setPlacement hitem, if_pos rfl]
    rfl
  cases k.lands with
  | center hp => exact absurd hp (hgone _)
  | edge hp => exact absurd hp (hgone _)
  | @fallback _ _ p' hp =>
      obtain ⟨r, hr, hlast, hactive⟩ := exists_panel_of_join hm k.nodup hp
      refine ⟨?_, r, hpanel, hr, hlast, hactive⟩
      cases hplace : e.tree.panel? place with
      | none => rfl
      | some r' =>
          rcases (mem_panels_graft k.nodup hp).1 (hm.panel?_eq_some_iff.1 hplace) with
            ⟨hold, -⟩ | hold
          · exact absurd hold (hgone _)
          · rw [panels, List.mem_singleton, Prod.mk.injEq] at hold
            exact absurd (hold.1 ▸ hp) (hgone _)

/-- A move that is not refused brings the tab to its target if and only if the target panel holds a
tab beforehand, or no other tab is docked. Where it does not, the target panel is gone, and the tab
is last and active in another panel. -/
theorem moveTab_arrived_iff (hd : d.Reachable) (h : (d.moveTab tab target).1 = true) :
    (d.Arrived (d.moveTab tab target).2 tab target ↔
      (∃ q, d.tree.panel? target.panel = some q ∧ q.isEmpty = false) ∨
        ∀ t j, d.panelOf? t = some j → t = tab) ∧
    (¬ d.Arrived (d.moveTab tab target).2 tab target →
      (d.moveTab tab target).2.tree.panel? target.panel = none ∧
      ∃ j r, (d.moveTab tab target).2.panelOf? tab = some j ∧
        (d.moveTab tab target).2.tree.panel? j = some r ∧ r.tabIds.getLast? = some tab ∧
        r.active = some tab) := by
  obtain ⟨l, hl⟩ := hd.sound
  rcases moveTab_eq hl tab target with hmove | ⟨e, m, entry, source, panel, p, q, hmove, rfl, k⟩
  · rw [hmove] at h
    cases h
  · rw [hmove]
    have hsurvives : (∃ r, (target.panel, r) ∈ (l.vacate source (p.without entry.id)).panels) ↔
        (∃ q, d.tree.panel? target.panel = some q ∧ q.isEmpty = false) ∨
          ∀ t j, d.panelOf? t = some j → t = entry.id := by
      rw [k.exists_target_iff hl]
      refine or_congr ?_ ?_
      · simp [hl.holds.panel?_of_mem k.aims]
      · simp only [hl.shown]
        exact forall_comm
    rw [← hsurvives]
    by_cases htarget : ∃ r, (target.panel, r) ∈ (l.vacate source (p.without entry.id)).panels
    · obtain ⟨r, hr⟩ := htarget
      have harrived : d.Arrived e entry.id target := k.arrived hl hr
      exact ⟨iff_of_true harrived ⟨r, hr⟩, fun hnot => absurd harrived hnot⟩
    · have hgone : ∀ r, (target.panel, r) ∉ (l.vacate source (p.without entry.id)).panels :=
        fun r hr => htarget ⟨r, hr⟩
      obtain ⟨hplace, r, hstray⟩ := k.strayed hgone
      have hnot : ¬ d.Arrived e entry.id target := by
        unfold Arrived
        rw [hplace]
        split
        · rintro ⟨r, hr, -⟩
          cases hr
        · rintro ⟨new, split, entry, -, -, -, hsome, -⟩
          cases hsome
      exact ⟨iff_of_false hnot htarget, fun _ => ⟨hplace, panel, r, hstray⟩⟩

/-- A dock with two tabs in one panel beside an empty one, which was the root when the first tab was
docked at its edge. -/
def besideEmpty : Dock :=
  (new .standard).run [
    .dockNew "A" ⟨⟨1⟩, "p"⟩ (some ⟨⟨1⟩, .left⟩),
    .dockNew "B" ⟨⟨2⟩, "p"⟩ (some ⟨⟨2⟩, .center⟩)]

/-- The first of the two tabs is moved to the centre of the empty panel and does not get there. -/
theorem besideEmpty_strays :
    (besideEmpty.moveTab ⟨1⟩ ⟨⟨1⟩, .center⟩).1 = true ∧
      ¬ besideEmpty.Arrived (besideEmpty.moveTab ⟨1⟩ ⟨⟨1⟩, .center⟩).2 ⟨1⟩ ⟨⟨1⟩, .center⟩ := by
  have hmoved : (besideEmpty.moveTab ⟨1⟩ ⟨⟨1⟩, .center⟩).1 = true := by rfl
  have hempty : besideEmpty.tree.panel? ⟨1⟩ = some .empty := by rfl
  have hother : besideEmpty.panelOf? ⟨2⟩ = some ⟨2⟩ := by rfl
  refine ⟨hmoved, fun harrived => ?_⟩
  rcases (moveTab_arrived_iff ⟨_, _, rfl⟩ hmoved).1.1 harrived with ⟨q, hq, hne⟩ | honly
  · obtain rfl : Panel.empty = q := Option.some.inj (hempty.symm.trans hq)
    cases hne
  · exact absurd (honly ⟨2⟩ ⟨2⟩ hother) (by decide)

end Moves

end Dock

end Docking
