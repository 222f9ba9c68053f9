import Docking.Dock.Tabs
import Docking.Proofs.Layout.Landing
import Docking.Proofs.Tree.Removal

/-!
# Placing and taking out tabs

The two moves that all operations on tabs are made of, on a dock whose tree holds a layout. A tab
that is in no panel always finds a place, and a tab of a panel can always be taken out. Nothing but
the tree, the active panel and the queue is touched.

## Main results

* `defaultPanel_eq`: the default panel is a panel of the layout, and choosing it changes nothing.
* `placeEntry_eq`: a tab lands in a panel and is mounted there.
* `detach_eq`, `eq_of_detach_some`, `eq_of_detach_none`: a tab leaves its panel and is unmounted,
  or nothing changes.
-/

namespace Docking

namespace Dock

open Layout hiding id

variable {d : Dock} {l : Layout} {panel : NodeId} {p : Panel} {entry : TabEntry}

/-- The default panel is in the layout. -/
theorem defaultPanel_eq (h : d.tree.Holds l) :
    ∃ panel p, d.defaultPanel = (panel, d) ∧ (panel, p) ∈ l.panels := by
  unfold defaultPanel
  cases hactive : d.activePanel.filter fun p => (d.tree.panel? p).isSome with
  | some panel =>
      obtain ⟨-, hpanel⟩ := Option.filter_eq_some_iff.1 hactive
      obtain ⟨p, hp⟩ := Option.isSome_iff_exists.1 hpanel
      exact ⟨panel, p, rfl, h.panel?_eq_some_iff.1 hp⟩
  | none =>
      obtain ⟨p, hp⟩ := l.exists_firstPanel
      simp only [h.firstPanel?_eq]
      exact ⟨l.firstPanel, p, rfl, hp⟩

/-- Which panel is the default one is decided by the tree and the active panel. -/
theorem fst_defaultPanel_congr {e : Dock} (htree : e.tree = d.tree)
    (hactive : e.activePanel = d.activePanel) : e.defaultPanel.1 = d.defaultPanel.1 := by
  unfold defaultPanel
  rw [htree, hactive]
  dsimp only
  split
  · rfl
  · split <;> rfl

/-- A tab without a target joins the default panel. -/
theorem placeEntry_none (hdefault : d.defaultPanel = (panel, d)) (entry : TabEntry)
    (activate : Bool) :
    d.placeEntry entry none activate =
      (panel, (d.addToPanel panel entry activate).emit (.mount entry.surface.id panel)) := by
  unfold placeEntry putEntry
  rw [Option.filter_none]
  simp only [hdefault]

/-- A tab that is in no panel joins a panel. The panel becomes the active one if the tab is shown
there. -/
theorem addToPanel_of_mem (h : d.tree.Holds l) (hp : (panel, p) ∈ l.panels)
    (hnew : entry.id ∉ l.tabIds) (activate : Bool) :
    d.addToPanel panel entry activate = { d with
      tree := d.tree.setPanel panel (p.push entry activate)
      activePanel :=
        if (p.push entry activate).active = some entry.id then some panel else d.activePanel } := by
  have hpanel : d.tree.panel? panel = some p := h.panel?_of_mem hp
  have hfree : entry.id ∉ p.tabIds := fun hm => hnew (mem_tabIds.2 ⟨panel, p, hp, hm⟩)
  simp only [addToPanel, hpanel, Panel.addTab_eq hfree]

theorem addToPanel_eq (h : d.tree.Holds l) (hp : (panel, p) ∈ l.panels)
    (hnew : entry.id ∉ l.tabIds) (activate : Bool) :
    ∃ u active, d.addToPanel panel entry activate = { d with tree := u, activePanel := active } ∧
      u.Holds (l.join panel entry activate) := by
  refine ⟨_, _, addToPanel_of_mem h hp hnew activate, ?_⟩
  have hset := Tree.setPanel_holds h hp (p.push entry activate)
  have hjoin : l.join panel entry activate =
      l.graft panel fun _ => .panel panel (p.push entry activate) := by
    obtain ⟨cs, rfl, hid⟩ := exists_trail h.nodup hp
    rw [join, graft_plug_panel hid, graft_plug_panel hid]
  rwa [hjoin]

/-- A tab gets a panel of its own beside a panel, which becomes the active one. -/
theorem splitWith_eq (h : d.tree.Holds l) (hp : (panel, p) ∈ l.panels) (entry : TabEntry)
    (o : Orientation) (first : Bool) :
    ∃ u, d.splitWith entry panel o first =
        (⟨d.tree.nextNode⟩, { d with tree := u, activePanel := some ⟨d.tree.nextNode⟩ }) ∧
      u.Holds (l.splitOff panel ⟨d.tree.nextNode + 1⟩ ⟨d.tree.nextNode⟩ o first entry) := by
  obtain ⟨u, hu, hholds, -⟩ := Tree.splitPanel_holds h hp (.single entry) o first
  refine ⟨u, ?_, hholds⟩
  have hname : (d.tree.insertPanel (.single entry)).1 = ⟨d.tree.nextNode⟩ := rfl
  unfold splitWith
  simp only [hname, hu]

/-- A target is looked for among the panels of the layout. -/
private theorem filter_target (h : d.tree.Holds l) (target : Option DropTarget) :
    (∃ t p, target = some t ∧ (t.panel, p) ∈ l.panels ∧
      target.filter (fun t => (d.tree.panel? t.panel).isSome) = some t) ∨
    (∀ t ∈ target, ∀ q, (t.panel, q) ∉ l.panels) ∧
      target.filter (fun t => (d.tree.panel? t.panel).isSome) = none := by
  cases target with
  | none => exact .inr ⟨fun t ht => by simp at ht, rfl⟩
  | some t =>
      cases hpanel : d.tree.panel? t.panel with
      | some p => exact .inl ⟨t, p, rfl, h.panel?_eq_some_iff.1 hpanel, by simp [hpanel]⟩
      | none =>
          refine .inr ⟨fun s hs q hq => ?_, by simp [hpanel]⟩
          rw [Option.mem_some_iff] at hs
          subst hs
          rw [h.panel?_of_mem hq] at hpanel
          cases hpanel

/-- A tab gets a panel of its own, or it joins one, where it is shown if that is asked for. -/
theorem putEntry_cases (h : d.tree.Holds l) (entry : TabEntry) (target : Option DropTarget)
    (activate : Bool) :
    (∃ panel p o first, (panel, p) ∈ l.panels ∧
      d.putEntry entry target activate = d.splitWith entry panel o first) ∨
    ∃ panel p shown, (panel, p) ∈ l.panels ∧ (activate = true → shown = true) ∧
      d.putEntry entry target activate = (panel, d.addToPanel panel entry shown) := by
  unfold putEntry
  rcases filter_target h target with ⟨⟨panel, zone⟩, p, rfl, hp, hfilter⟩ | ⟨-, hfilter⟩
  · simp only [hfilter]
    cases zone.orientation? with
    | some o => exact .inl ⟨panel, p, o, zone.newFirst, hp, rfl⟩
    | none => exact .inr ⟨panel, p, true, hp, fun _ => rfl, rfl⟩
  · obtain ⟨panel, p, hdefault, hp⟩ := defaultPanel_eq h
    simp only [hfilter, hdefault]
    exact .inr ⟨panel, p, activate, hp, fun hactivate => hactivate, rfl⟩

/-- A tab that is in no panel lands in a panel, where its surface is mounted. -/
theorem placeEntry_eq (h : d.tree.Holds l) (entry : TabEntry) (hnew : entry.id ∉ l.tabIds)
    (target : Option DropTarget) (activate : Bool) :
    ∃ panel m u active, d.placeEntry entry target activate =
        (panel, { d with
          tree := u
          activePanel := active
          outbox := d.outbox ++ [.mount entry.surface.id panel] }) ∧
      u.Holds m ∧ l.Lands d.tree.nextNode entry activate target panel m := by
  unfold placeEntry putEntry
  rcases filter_target h target with ⟨⟨panel, zone⟩, p, rfl, hp, hfilter⟩ | ⟨hgone, hfilter⟩
  · simp only [hfilter]
    cases hzone : zone.orientation? with
    | some o =>
        obtain ⟨u, hu, hholds⟩ := splitWith_eq h hp entry o zone.newFirst
        refine ⟨⟨d.tree.nextNode⟩, _, u, some ⟨d.tree.nextNode⟩, ?_, hholds, .edge hp hzone⟩
        simp only [hu]
        rfl
    | none =>
        obtain ⟨u, active, hu, hholds⟩ := addToPanel_eq h hp hnew true
        refine ⟨panel, _, u, active, ?_, hholds, .center hp hzone⟩
        simp only [hu]
        rfl
  · obtain ⟨panel, p, hdefault, hp⟩ := defaultPanel_eq h
    obtain ⟨u, active, hu, hholds⟩ := addToPanel_eq h hp hnew activate
    refine ⟨panel, _, u, active, ?_, hholds, .fallback hp hgone⟩
    simp only [hfilter, hdefault, hu]
    rfl

/-- Where no tab is taken out, nothing has changed. -/
theorem eq_of_detach_none {tab : TabId} {e : Dock} (h : d.detach tab panel = (none, e)) :
    e = d := by
  unfold detach at h
  split at h
  · exact (Prod.mk.inj h).2.symm
  · next hpanel =>
    split at h
    · next hremove =>
      rw [Panel.eq_of_removeTab_none hremove, Tree.setPanel_self hpanel] at h
      exact (Prod.mk.inj h).2.symm
    · cases (Prod.mk.inj h).1

/-- Where a tab is taken out of a panel, the tree is written there, and empty panels are removed. -/
theorem eq_of_detach_some {tab : TabId} {e : Dock} (h : d.detach tab panel = (some entry, e)) :
    ∃ q : Panel, e = { d with
      tree := (if q.isEmpty && decide (panel ≠ (d.tree.setPanel panel q).root) then
        ((d.tree.setPanel panel q).removePanel panel).2 else d.tree.setPanel panel q).prune.2
      outbox := d.outbox ++ [.unmount entry.surface.id] } := by
  unfold detach at h
  split at h
  · cases (Prod.mk.inj h).1
  · split at h
    · cases (Prod.mk.inj h).1
    · next q _ =>
      cases h
      exact ⟨q, rfl⟩

/-- What the items say is not looked at. -/
theorem detach_items (d : Dock) (items : Table TabId Item) (tab : TabId) (panel : NodeId) :
    { d with items }.detach tab panel =
      ((d.detach tab panel).1, { (d.detach tab panel).2 with items }) := by
  unfold detach
  cases d.tree.panel? panel with
  | none => rfl
  | some p =>
      dsimp only
      obtain ⟨removed, q⟩ := p.removeTab tab
      cases removed with
      | none => rfl
      | some entry => rfl

/-- A tab of a panel leaves it, and its surface is unmounted. -/
theorem detach_eq (h : d.tree.Holds l) (ht : l.Tidy) (hp : (panel, p) ∈ l.panels) {tab : TabId}
    (htab : tab ∈ p.tabIds) :
    ∃ entry u, d.detach tab panel =
        (some entry, { d with tree := u, outbox := d.outbox ++ [.unmount entry.surface.id] }) ∧
      entry ∈ p.tabs ∧ entry.id = tab ∧ u.Holds (l.vacate panel (p.without tab)) ∧
      u.nextNode = d.tree.nextNode := by
  obtain ⟨entry, hentry, hid, hremove⟩ := Panel.removeTab_eq htab (ht.nodup_panel hp)
  have hpanel : d.tree.panel? panel = some p := h.panel?_of_mem hp
  let t := d.tree.setPanel panel (p.without tab)
  have ht : t.Holds (l.graft panel fun _ => .panel panel (p.without tab)) :=
    Tree.setPanel_holds h hp (p.without tab)
  have hroot : t.root = l.id := h.root
  obtain ⟨u, hu, hholds, hnext⟩ : ∃ u,
      (if (p.without tab).isEmpty && decide (panel ≠ t.root) then (t.removePanel panel).2 else t) =
        u ∧ u.Holds (l.refill panel (p.without tab)) ∧ u.nextNode = t.nextNode := by
    rw [refill, hroot]
    split
    · next he =>
      simp only [Bool.and_eq_true, decide_eq_true_eq] at he
      have hmem : (panel, p.without tab) ∈
          (l.graft panel fun _ => .panel panel (p.without tab)).panels :=
        (mem_panels_graft h.nodup hp).2 (.inr (by simp [panels]))
      have hid : panel ≠ (l.graft panel fun _ => .panel panel (p.without tab)).id := by
        rw [← ht.root, hroot]
        exact he.2
      obtain ⟨u, hu, hholds, hnext⟩ := Tree.removePanel_holds ht hmem hid
      rw [remove_graft h.nodup hp he.2] at hholds
      exact ⟨u, by rw [hu], hholds, hnext⟩
    · exact ⟨t, rfl, ht, rfl⟩
  obtain ⟨hpruned, -, hprunedNext⟩ := Tree.prune_holds hholds
  refine ⟨entry, u.prune.2, ?_, hentry, hid, hpruned, hprunedNext.trans hnext⟩
  simp only [detach, hpanel, hremove]
  show (some entry, { d with
    tree := (if (p.without tab).isEmpty && decide (panel ≠ t.root) then (t.removePanel panel).2
      else t).prune.2
    outbox := d.outbox ++ [Command.unmount entry.surface.id] }) = _
  rw [hu]

end Dock

end Docking
