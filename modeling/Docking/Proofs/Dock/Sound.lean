import Docking.Dock.Drag
import Docking.Proofs.Dock.Placing

/-!
# Sound docks

A dock is *sound* for a layout if its tree holds the layout, the layout is tidy and has at most one
empty panel, and the items say of every tab where the layout shows it. An operation changes one item
and one place of the layout; `Sound.update` says what has to be known of both.

## Main results

* `sound_new`: a new dock is sound.
* `Sound.congr`: gestures, settings, the active panel and the queue do not matter.
* `Sound.update`: one item and one place are changed.
* `Sound.finds`: a drop looks for a tab that has the window.
-/

namespace Docking

namespace Dock

open Layout hiding id

/-- The tree, the layout and the items agree. -/
structure Sound (d : Dock) (l : Layout) : Prop where
  holds : d.tree.Holds l
  tidy : l.Tidy
  lone : l.LoneEmpty
  shown : ∀ {tab panel}, d.panelOf? tab = some panel ↔ l.Shows panel tab
  keyed : ∀ {tab item}, d.item? tab = some item → item.id = tab
  fresh : ∀ {tab item}, d.item? tab = some item → tab.number < d.nextTab

/-- A tab that a drop may find for its window: one that has the window, or none if there is no such
tab. Where several tabs have the window, it may be any of them. -/
def Finds (d : Dock) (payload : Payload) : Option TabId → Prop
  | some tab => ∃ window i, payload.window = some window ∧ d.item? tab = some i ∧
      i.window? = some window
  | none => ∀ window tab i, payload.window = some window → d.item? tab = some i →
      i.window? ≠ some window

section Sound

variable {d e : Dock} {l m : Layout} {tab : TabId}

theorem sound_new (settings : DragSettings) : (new settings).Sound (.panel ⟨1⟩ .empty) where
  holds := Tree.holds_new
  tidy := tidy_panel ⟨1⟩ Panel.fits_empty (by simp)
  lone := fun x hx y hy _ _ => by
    rw [panels, List.mem_singleton] at hx hy
    rw [hx, hy]
  shown := by
    intro tab panel
    rw [shows_panel]
    simp [panelOf?, item?, new]
  keyed := fun h => by simp [item?, new] at h
  fresh := fun h => by simp [item?, new] at h

theorem Sound.nodup (h : d.Sound l) : l.ids.Nodup := h.holds.nodup

/-- Only the tree, the items and the counter of tabs matter. -/
theorem Sound.congr (h : d.Sound l) (htree : e.tree = d.tree) (hitems : e.items = d.items)
    (hnext : e.nextTab = d.nextTab) : e.Sound l := by
  have hitem : e.item? = d.item? := by
    funext tab
    rw [item?, item?, hitems]
  refine
    { holds := htree ▸ h.holds
      tidy := h.tidy
      lone := h.lone
      shown := ?_
      keyed := ?_
      fresh := ?_ }
  · intro tab panel
    rw [panelOf?, hitem]
    exact h.shown
  · intro tab item hi
    rw [hitem] at hi
    exact h.keyed hi
  · intro tab item hi
    rw [hitem] at hi
    rw [hnext]
    exact h.fresh hi

theorem Sound.emit (h : d.Sound l) (c : Command) : (d.emit c).Sound l := h.congr rfl rfl rfl

theorem Sound.finish (h : d.Sound l) : d.finish.Sound l :=
  { h with holds := h.holds.relayout }

/-- The panel in which a docked item is shown. -/
theorem Sound.exists_panel (h : d.Sound l) {panel : NodeId} (hpanel : d.panelOf? tab = some panel) :
    ∃ p, (panel, p) ∈ l.panels ∧ tab ∈ p.tabIds :=
  h.shown.1 hpanel

/-- A tab without a docked item is in no panel. -/
theorem Sound.notMem_tabIds (h : d.Sound l) (hpanel : d.panelOf? tab = none) : tab ∉ l.tabIds := by
  intro hm
  obtain ⟨panel, hs⟩ := mem_tabIds.1 hm
  rw [h.shown.2 hs] at hpanel
  cases hpanel

theorem Sound.item?_of_mem_values (h : d.Sound l) {i : Item} (hi : i ∈ d.items.values) :
    d.item? i.id = some i := by
  obtain ⟨⟨k, j⟩, hmem, hj⟩ := List.mem_map.1 hi
  obtain rfl : j = i := hj
  have hitem : d.item? k = some j := Table.get?_eq_some_iff.2 hmem
  rw [h.keyed hitem, hitem]

/-- A tab that is found by its window has it. -/
theorem Sound.item?_of_findWindow (h : d.Sound l) {window : Window}
    (hfind : d.findWindow window = some tab) :
    ∃ i, d.item? tab = some i ∧ i.window? = some window := by
  rw [findWindow, Option.map_eq_some_iff] at hfind
  obtain ⟨i, hi, rfl⟩ := hfind
  exact ⟨i, h.item?_of_mem_values (List.mem_of_find?_eq_some hi), by simpa using List.find?_some hi⟩

/-- A window that no tab is found for is no tab's window. -/
theorem window?_ne_of_findWindow {window : Window} (hfind : d.findWindow window = none) {i : Item}
    (hitem : d.item? tab = some i) : i.window? ≠ some window := by
  intro hwindow
  have hmem : i ∈ d.items.values :=
    List.mem_map.2 ⟨(tab, i), Table.get?_eq_some_iff.1 hitem, rfl⟩
  rw [findWindow, Option.map_eq_none_iff, List.find?_eq_none] at hfind
  exact hfind i hmem (by simp [hwindow])

/-- The tab that a drop looks for is one that it may find. -/
theorem Sound.finds (h : d.Sound l) (payload : Payload) :
    d.Finds payload (payload.window.bind d.findWindow) := by
  cases hfound : payload.window.bind d.findWindow with
  | some tab =>
      obtain ⟨window, hwindow, hfind⟩ := Option.bind_eq_some_iff.1 hfound
      obtain ⟨i, hitem, hi⟩ := h.item?_of_findWindow hfind
      exact ⟨window, i, hwindow, hitem, hi⟩
  | none =>
      intro window tab i hwindow hitem
      rw [hwindow, Option.bind_some] at hfound
      exact window?_ne_of_findWindow hfound hitem

/-- Names from the counter on are not in use. -/
theorem Sound.not_contains (h : d.Sound l) {n : Nat} (hn : d.tree.nextNode ≤ n) :
    d.tree.contains ⟨n⟩ = false := by
  cases hlink : d.tree.link? ⟨n⟩ with
  | none =>
      rw [Tree.contains_eq, hlink]
      rfl
  | some _ => exact absurd (h.holds.fresh hlink) (Nat.not_lt.2 hn)

/-- One item is put in, changed or taken out, and the layout shows its tab in another place. -/
theorem Sound.update (h : d.Sound l) (hm : e.tree.Holds m) (ht : m.Tidy) (hlone : m.LoneEmpty)
    {item : Option Item} (hitem : ∀ j, e.item? j = if tab = j then item else d.item? j)
    (hself : ∀ i ∈ item, i.id = tab ∧ tab.number < e.nextTab) (hnext : d.nextTab ≤ e.nextTab)
    (hshows : ∀ {panel t}, m.Shows panel t ↔
      l.Shows panel t ∧ t ≠ tab ∨ t = tab ∧ item.bind Item.panel? = some panel) : e.Sound m := by
  refine
    { holds := hm
      tidy := ht
      lone := hlone
      shown := ?_
      keyed := ?_
      fresh := ?_ }
  · intro t panel
    rw [hshows, panelOf?, hitem]
    by_cases htab : tab = t
    · subst htab
      rw [if_pos rfl]
      simp
    · rw [if_neg htab, ← h.shown, panelOf?]
      simp [Ne.symm htab]
  · intro t i hi
    rw [hitem] at hi
    split at hi
    · next htab => exact htab ▸ (hself i hi).1
    · exact h.keyed hi
  · intro t i hi
    rw [hitem] at hi
    split at hi
    · next htab => exact htab ▸ (hself i hi).2
    · exact Nat.lt_of_lt_of_le (h.fresh hi) hnext

end Sound

end Dock

end Docking
