import Docking.Proofs.Dock.Steps
import Docking.Proofs.Tree.Shape

/-!
# Docks are consistent

What a dock promises after every operation, said about its tables: the nodes form one tree, the
panels are in order, and the items and the panels name each other. The law on empty panels is that
there is at most one, wherever it is.

## Main results

* `Sound.consistent`: a sound dock keeps the promise.
* `run_consistent`: every dock does, after every run.
-/

namespace Docking

namespace Dock

/-- What is promised of a dock. -/
structure Consistent (d : Dock) : Prop where
  /-- The nodes form one tree. -/
  tree : d.tree.WellFormed
  /-- The active tab of a panel is one of its tabs, and only an empty panel has none. -/
  active : ∀ {id p}, d.tree.panel? id = some p →
    (∀ tab, p.active = some tab → tab ∈ p.tabIds) ∧ (p.active = none → p.tabs = [])
  /-- A tab has one position in one panel. -/
  position : ∀ {id id' p p' tab} {i j : Nat}, d.tree.panel? id = some p →
    d.tree.panel? id' = some p' → p.tabIds[i]? = some tab → p'.tabIds[j]? = some tab →
    id = id' ∧ i = j
  /-- A docked tab is shown in the panel that its item names, and in no other one. -/
  docked : ∀ {tab item panel}, d.item? tab = some item → item.placement = .docked panel →
    (∃ p, d.tree.panel? panel = some p ∧ tab ∈ p.tabIds) ∧
      ∀ {id p}, d.tree.panel? id = some p → tab ∈ p.tabIds → id = panel
  /-- A tab that is shown has a docked item, which names the panel. -/
  shown : ∀ {id p tab}, d.tree.panel? id = some p → tab ∈ p.tabIds →
    ∃ item, d.item? tab = some item ∧ item.id = tab ∧ item.placement = .docked id
  /-- A floating tab is shown nowhere. -/
  floating : ∀ {tab item window surface}, d.item? tab = some item →
    item.placement = .floating window surface → ∀ {id p}, d.tree.panel? id = some p →
      tab ∉ p.tabIds
  /-- No two panels are empty. -/
  lone : ∀ {id id' p p'}, d.tree.panel? id = some p → d.tree.panel? id' = some p' →
    p.isEmpty → p'.isEmpty → id = id'

section Consistency

variable {d : Dock} {l : Layout}

theorem Sound.shows_iff (h : d.Sound l) {panel : NodeId} {tab : TabId} :
    l.Shows panel tab ↔ ∃ p, d.tree.panel? panel = some p ∧ tab ∈ p.tabIds := by
  rw [Layout.Shows]
  simp only [h.holds.panel?_eq_some_iff]

theorem Sound.position (h : d.Sound l) {id id' : NodeId} {p p' : Panel} {i j : Nat} {tab : TabId}
    (hp : d.tree.panel? id = some p) (hp' : d.tree.panel? id' = some p')
    (hi : p.tabIds[i]? = some tab) (hj : p'.tabIds[j]? = some tab) : id = id' ∧ i = j := by
  have hs : l.Shows id tab := h.shows_iff.2 ⟨p, hp, List.mem_of_getElem? hi⟩
  have hs' : l.Shows id' tab := h.shows_iff.2 ⟨p', hp', List.mem_of_getElem? hj⟩
  obtain rfl := h.tidy.shows_unique hs hs'
  obtain rfl : p = p' := Option.some.inj (hp.symm.trans hp')
  have hnodup := h.tidy.nodup_panel (h.holds.panel?_eq_some_iff.1 hp)
  obtain ⟨hi', -⟩ := List.getElem?_eq_some_iff.1 hi
  exact ⟨rfl, (List.getElem?_inj hi' hnodup).1 (hi.trans hj.symm)⟩

/-- A sound dock is consistent. -/
theorem Sound.consistent (h : d.Sound l) : d.Consistent where
  tree := h.holds.wellFormed
  active := fun hp => Panel.fits_iff.1 (h.tidy.fits _ (h.holds.panel?_eq_some_iff.1 hp))
  position := h.position
  docked := by
    intro tab item panel hitem hplacement
    have hs : l.Shows panel tab := h.shown.1 (panelOf?_eq_some_iff.2 ⟨item, hitem, hplacement⟩)
    refine ⟨h.shows_iff.1 hs, ?_⟩
    intro id p hp htab
    exact h.tidy.shows_unique (h.shows_iff.2 ⟨p, hp, htab⟩) hs
  shown := by
    intro id p tab hp htab
    obtain ⟨item, hitem, hplacement⟩ :=
      panelOf?_eq_some_iff.1 (h.shown.2 (h.shows_iff.2 ⟨p, hp, htab⟩))
    exact ⟨item, hitem, h.keyed hitem, hplacement⟩
  floating := by
    intro tab item window surface hitem hplacement id p hp htab
    obtain ⟨item', hitem', hplacement'⟩ :=
      panelOf?_eq_some_iff.1 (h.shown.2 (h.shows_iff.2 ⟨p, hp, htab⟩))
    obtain rfl : item = item' := Option.some.inj (hitem.symm.trans hitem')
    rw [hplacement] at hplacement'
    cases hplacement'
  lone := fun hp hp' he he' => h.lone _ (h.holds.panel?_eq_some_iff.1 hp) _
    (h.holds.panel?_eq_some_iff.1 hp') he he'

/-- After every run of operations, whatever they are and in whatever order, a dock is consistent. -/
theorem run_consistent (settings : DragSettings) (ops : List Operation) :
    ((new settings).run ops).Consistent := by
  obtain ⟨l, h⟩ := run_sound settings ops
  exact h.consistent

end Consistency

end Dock

end Docking
