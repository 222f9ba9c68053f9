import Docking.Panel
import Docking.Split
import Mathlib.Data.List.Nodup

/-!
# Layouts as ordinary trees

The table of nodes of a `Tree` is made for edits. `Layout` is the same layout made for reading: a
leaf is a panel, an inner node is a split with its two parts, and there are no links that could
disagree. Every edit of a tree is a recursive function here.

## Main definitions

* `Layout.ids`, `Layout.panels`, `Layout.tabIds`: what a layout consists of.
* `Layout.graft`: other contents in the place of one panel.
* `Layout.beside`: a split with an even share for both parts.
* `Layout.remove`: a layout without one of its panels.
* `Layout.drop`: a layout without one of its tabs.
* `Layout.pruned`: a layout without its empty panels.
-/

namespace Docking

/-- A layout as an ordinary tree. -/
inductive Layout where
  | panel (id : NodeId) (content : Panel)
  | split (id : NodeId) (orientation : Orientation) (ratio : Float32) (first second : Layout)

namespace Panel

/-- The panel with one more tab at the end, which becomes active if that is asked for or if no tab
was active. -/
def push (p : Panel) (entry : TabEntry) (activate : Bool) : Panel :=
  ⟨p.tabs ++ [entry], if activate || p.active.isNone then some entry.id else p.active⟩

/-- The panel without a tab. The first remaining tab becomes active if it was the active one. -/
def without (p : Panel) (tab : TabId) : Panel :=
  let tabs := p.tabs.filter fun t => t.id ≠ tab
  ⟨tabs, if p.active = some tab then tabs.head?.map TabEntry.id else p.active⟩

end Panel

namespace Layout

/-- The topmost node. -/
def id : Layout → NodeId
  | panel id _ => id
  | split id .. => id

@[simp] theorem id_panel (id : NodeId) (p : Panel) : (panel id p).id = id := rfl

@[simp] theorem id_split (id : NodeId) (o : Orientation) (r : Float32) (a b : Layout) :
    (split id o r a b).id = id := rfl

/-- All nodes, a split before its parts. -/
def ids : Layout → List NodeId
  | panel id _ => [id]
  | split id _ _ a b => id :: (a.ids ++ b.ids)

/-- The panels with their names, a first part's before a second part's. -/
def panels : Layout → List (NodeId × Panel)
  | panel id p => [(id, p)]
  | split _ _ _ a b => a.panels ++ b.panels

/-- The tabs of all panels. -/
def tabIds (l : Layout) : List TabId := l.panels.flatMap fun x => x.2.tabIds

/-- The number of levels. -/
def height : Layout → Nat
  | panel .. => 1
  | split _ _ _ a b => max a.height b.height + 1

/-- A tab is shown in a panel. -/
def Shows (l : Layout) (panel : NodeId) (tab : TabId) : Prop :=
  ∃ p, (panel, p) ∈ l.panels ∧ tab ∈ p.tabIds

/-- A panel has a tab, with this title and this surface. -/
def Has (l : Layout) (panel : NodeId) (entry : TabEntry) : Prop :=
  ∃ p, (panel, p) ∈ l.panels ∧ entry ∈ p.tabs

/-! ## Edits -/

/-- The layout with other contents in the place of one panel, made from that panel. -/
def graft (target : NodeId) (f : Panel → Layout) : Layout → Layout
  | panel id p => if id = target then f p else panel id p
  | split id o r a b => split id o r (a.graft target f) (b.graft target f)

/-- Two layouts beside each other, each with an even share, `added` first if `first`. -/
def beside (id : NodeId) (o : Orientation) (first : Bool) (added rest : Layout) : Layout :=
  if first then split id o 0.5 added rest else split id o 0.5 rest added

/-- Whether a layout is one panel of a given name. -/
def isPanel (target : NodeId) : Layout → Bool
  | panel id _ => id = target
  | split .. => false

/-- The layout without one of its panels: the other part of the split above takes the place of the
split. A layout that is one panel stays. -/
def remove (target : NodeId) : Layout → Layout
  | panel id p => panel id p
  | split id o r a b =>
    if a.isPanel target then b
    else if b.isPanel target then a
    else split id o r (a.remove target) (b.remove target)

/-- Whether a layout is one panel with a single tab, the given one. -/
def isOnly (tab : TabId) : Layout → Bool
  | panel _ p => p.tabIds = [tab]
  | split .. => false

/-- The layout without a tab. A panel that this leaves empty disappears, and its sibling takes the
place of the split above, unless the panel is the whole layout. -/
def drop (tab : TabId) : Layout → Layout
  | panel id p => panel id (p.without tab)
  | split id o r a b =>
    if a.isOnly tab then b
    else if b.isOnly tab then a
    else split id o r (a.drop tab) (b.drop tab)

/-- Whether a layout is one empty panel. -/
def isBlank : Layout → Bool
  | panel _ p => p.isEmpty
  | split .. => false

/-- The layout without its empty panels. Where all panels are empty the last one stays. -/
def pruned : Layout → Layout
  | panel id p => panel id p
  | split id o r a b =>
    if a.pruned.isBlank then b.pruned
    else if b.pruned.isBlank then a.pruned
    else split id o r a.pruned b.pruned

/-! ## Nodes and panels -/

theorem id_mem_ids (l : Layout) : l.id ∈ l.ids := by
  cases l <;> simp [id, ids]

theorem panels_ne_nil (l : Layout) : l.panels ≠ [] := by
  induction l with
  | panel id p => simp [panels]
  | split id o r a b iha ihb => simp [panels, iha]

theorem height_le_length_ids (l : Layout) : l.height ≤ l.ids.length := by
  induction l with
  | panel id p => simp [height, ids]
  | split id o r a b iha ihb =>
      simp only [height, ids, List.length_cons, List.length_append]
      omega

theorem mem_ids_of_mem_panels {l : Layout} {x : NodeId × Panel} (h : x ∈ l.panels) :
    x.1 ∈ l.ids := by
  induction l with
  | panel id p =>
      rw [panels, List.mem_singleton] at h
      simp [h, ids]
  | split id o r a b iha ihb =>
      rw [panels, List.mem_append] at h
      rw [ids, List.mem_cons, List.mem_append]
      rcases h with h | h
      · exact .inr (.inl (iha h))
      · exact .inr (.inr (ihb h))

/-- The names of the panels occur among the nodes, in the same order. -/
theorem panels_sublist_ids (l : Layout) : (l.panels.map Prod.fst).Sublist l.ids := by
  induction l with
  | panel id p => simp [panels, ids]
  | split id o r a b iha ihb =>
      rw [panels, List.map_append, ids]
      exact (iha.append ihb).cons _

theorem nodup_panels {l : Layout} (h : l.ids.Nodup) : (l.panels.map Prod.fst).Nodup :=
  h.sublist l.panels_sublist_ids

/-- A panel is determined by its name. -/
theorem panel_unique {l : Layout} (h : l.ids.Nodup) {id : NodeId} {p q : Panel}
    (hp : (id, p) ∈ l.panels) (hq : (id, q) ∈ l.panels) : p = q := by
  have := List.inj_on_of_nodup_map (nodup_panels h) hp hq rfl
  exact congrArg Prod.snd this

/-- The topmost node is a panel only if it is the whole layout. -/
theorem eq_panel_of_mem_panels {l : Layout} (h : l.ids.Nodup) {x : NodeId × Panel}
    (hx : x ∈ l.panels) (hid : x.1 = l.id) : l = panel x.1 x.2 := by
  cases l with
  | panel id p =>
      rw [panels, List.mem_singleton] at hx
      rw [hx]
  | split id o r a b =>
      rw [ids, List.nodup_cons, List.mem_append] at h
      rw [panels, List.mem_append] at hx
      have : x.1 ∈ a.ids ∨ x.1 ∈ b.ids := hx.imp mem_ids_of_mem_panels mem_ids_of_mem_panels
      rw [hid] at this
      exact absurd this h.1

/-- A panel that is the topmost node is the only panel. -/
theorem eq_of_mem_panels_top {l : Layout} (h : l.ids.Nodup) {x y : NodeId × Panel}
    (hx : x ∈ l.panels) (hid : x.1 = l.id) (hy : y ∈ l.panels) : y = x := by
  rw [eq_panel_of_mem_panels h hx hid, panels, List.mem_singleton] at hy
  exact hy

theorem mem_tabIds {l : Layout} {tab : TabId} : tab ∈ l.tabIds ↔ ∃ panel, l.Shows panel tab := by
  constructor
  · intro h
    obtain ⟨x, hx, ht⟩ := List.mem_flatMap.1 h
    exact ⟨x.1, x.2, hx, ht⟩
  · rintro ⟨panel, p, hp, ht⟩
    exact List.mem_flatMap.2 ⟨(panel, p), hp, ht⟩

/-- A tab is shown in the panels that have it. -/
theorem shows_iff_has {l : Layout} {panel : NodeId} {tab : TabId} :
    l.Shows panel tab ↔ ∃ entry, l.Has panel entry ∧ entry.id = tab := by
  constructor
  · rintro ⟨p, hp, ht⟩
    obtain ⟨entry, hentry, hid⟩ := List.mem_map.1 ht
    exact ⟨entry, ⟨p, hp, hentry⟩, hid⟩
  · rintro ⟨entry, ⟨p, hp, hentry⟩, hid⟩
    exact ⟨p, hp, List.mem_map.2 ⟨entry, hentry, hid⟩⟩

theorem tabIds_split (id : NodeId) (o : Orientation) (r : Float32) (a b : Layout) :
    (split id o r a b).tabIds = a.tabIds ++ b.tabIds := by
  rw [tabIds, panels, List.flatMap_append]
  rfl

/-! ## Parts that an edit does not reach -/

theorem graft_of_notMem {l : Layout} {target : NodeId} (h : target ∉ l.ids) (f : Panel → Layout) :
    l.graft target f = l := by
  induction l with
  | panel id p =>
      rw [ids, List.mem_singleton] at h
      rw [graft, if_neg fun e => h e.symm]
  | split id o r a b iha ihb =>
      simp only [ids, List.mem_cons, List.mem_append, not_or] at h
      rw [graft, iha h.2.1, ihb h.2.2]

/-- Contents that keep the name of the panel keep the topmost node. -/
theorem id_graft {target : NodeId} {f : Panel → Layout} (h : ∀ p, (f p).id = target) (l : Layout) :
    (l.graft target f).id = l.id := by
  cases l with
  | panel id p =>
      rw [graft]
      split
      · next e => rw [h, id_panel, e]
      · rfl
  | split => rfl

theorem isPanel_of_notMem {l : Layout} {target : NodeId} (h : target ∉ l.ids) :
    l.isPanel target = false := by
  cases l with
  | panel id p =>
      rw [ids, List.mem_singleton] at h
      simpa [isPanel] using fun e : id = target => h e.symm
  | split => rfl

theorem remove_of_notMem {l : Layout} {target : NodeId} (h : target ∉ l.ids) :
    l.remove target = l := by
  induction l with
  | panel id p => rfl
  | split id o r a b iha ihb =>
      simp only [ids, List.mem_cons, List.mem_append, not_or] at h
      rw [remove, isPanel_of_notMem h.2.1, isPanel_of_notMem h.2.2, iha h.2.1, ihb h.2.2]
      simp

theorem without_of_notMem {p : Panel} {tab : TabId} (h : tab ∉ p.tabIds)
    (hactive : p.active ≠ some tab) : p.without tab = p := by
  have htabs : p.tabs.filter (fun t => decide (t.id ≠ tab)) = p.tabs := by
    rw [List.filter_eq_self]
    intro t ht
    simp only [decide_eq_true_eq]
    intro e
    exact h (List.mem_map.2 ⟨t, ht, e⟩)
  rw [Panel.without, htabs, if_neg hactive]

theorem isOnly_of_notMem {l : Layout} {tab : TabId} (h : tab ∉ l.tabIds) :
    l.isOnly tab = false := by
  cases l with
  | panel id p =>
      have hp : tab ∉ p.tabIds := by simpa [tabIds, panels] using h
      simp only [isOnly, decide_eq_false_iff_not]
      intro e
      simp [e] at hp
  | split => rfl

theorem drop_of_notMem {l : Layout} {tab : TabId} (h : tab ∉ l.tabIds)
    (hactive : ∀ x ∈ l.panels, x.2.active ≠ some tab) : l.drop tab = l := by
  induction l with
  | panel id p =>
      have hp : tab ∉ p.tabIds := by simpa [tabIds, panels] using h
      rw [drop, without_of_notMem hp (hactive (id, p) (by simp [panels]))]
  | split id o r a b iha ihb =>
      have hab : tab ∉ a.tabIds ∧ tab ∉ b.tabIds := by
        simpa [tabIds_split] using h
      simp only [panels, List.mem_append] at hactive
      rw [drop, isOnly_of_notMem hab.1, isOnly_of_notMem hab.2,
        iha hab.1 fun x hx => hactive x (.inl hx), ihb hab.2 fun x hx => hactive x (.inr hx)]
      simp

/-! ## Pruning -/

theorem isBlank_iff {l : Layout} : l.isBlank ↔ ∃ id p, l = panel id p ∧ p.isEmpty := by
  cases l <;> simp [isBlank]

/-- Where some panel holds a tab, exactly the panels that hold tabs are left; where none does, one
of them is left. -/
theorem panels_pruned (l : Layout) :
    (l.pruned.isBlank = false ∧ l.pruned.panels = l.panels.filter fun x => !x.2.isEmpty) ∨
      (l.pruned.isBlank ∧ l.pruned.panels.Sublist l.panels ∧ ∀ x ∈ l.panels, x.2.isEmpty) := by
  induction l with
  | panel id p =>
      cases h : p.isEmpty with
      | true => exact .inr (by simp [pruned, isBlank, panels, h])
      | false => exact .inl (by simp [pruned, isBlank, panels, h])
  | split id o r a b iha ihb =>
      have empties {c : Layout} (hc : ∀ x ∈ c.panels, x.2.isEmpty) :
          c.panels.filter (fun x => !x.2.isEmpty) = [] := by
        rw [List.filter_eq_nil_iff]
        intro x hx
        simp [hc x hx]
      rw [pruned, panels, List.filter_append]
      rcases iha with ⟨ha, hpa⟩ | ⟨ha, hsa, hea⟩
      · rw [ha]
        rcases ihb with ⟨hb, hpb⟩ | ⟨hb, -, heb⟩
        · left
          rw [hb]
          exact ⟨rfl, by simp [panels, hpa, hpb]⟩
        · left
          rw [hb, empties heb]
          exact ⟨by simpa using ha, by simpa using hpa⟩
      · rw [if_pos ha, empties hea]
        rcases ihb with ⟨hb, hpb⟩ | ⟨hb, hsb, heb⟩
        · left
          exact ⟨hb, by simpa using hpb⟩
        · right
          refine ⟨hb, hsb.trans (List.sublist_append_right ..), ?_⟩
          intro x hx
          rcases List.mem_append.1 hx with hx | hx
          · exact hea x hx
          · exact heb x hx

theorem panels_pruned_sublist (l : Layout) : l.pruned.panels.Sublist l.panels := by
  rcases l.panels_pruned with ⟨-, h⟩ | ⟨-, h, -⟩
  · rw [h]
    exact List.filter_sublist
  · exact h

/-- Where all panels are empty, the last one is left. -/
theorem pruned_of_blank {l : Layout} (h : ∀ x ∈ l.panels, x.2.isEmpty) :
    ∃ x, l.panels.getLast? = some x ∧ l.pruned = panel x.1 x.2 := by
  induction l with
  | panel id p => exact ⟨(id, p), rfl, rfl⟩
  | split id o r a b iha ihb =>
      simp only [panels, List.mem_append] at h
      obtain ⟨x, hx, ha⟩ := iha fun y hy => h y (.inl hy)
      obtain ⟨y, hy, hb⟩ := ihb fun y hy => h y (.inr hy)
      have hblank : a.pruned.isBlank := by
        rw [ha]
        exact h x (.inl (List.mem_of_getLast? hx))
      refine ⟨y, ?_, ?_⟩
      · rw [panels, List.getLast?_append, hy, Option.some_or]
      · rw [pruned, if_pos hblank, hb]

/-- At most one panel is empty after pruning, and then it is the whole layout. -/
theorem eq_panel_of_mem_pruned {l : Layout} {x : NodeId × Panel} (hx : x ∈ l.pruned.panels)
    (he : x.2.isEmpty) : l.pruned = panel x.1 x.2 := by
  rcases l.panels_pruned with ⟨-, h⟩ | ⟨h, -, -⟩
  · rw [h, List.mem_filter] at hx
    simp [he] at hx
  · obtain ⟨id, p, hl, -⟩ := isBlank_iff.1 h
    rw [hl] at hx ⊢
    rw [panels, List.mem_singleton] at hx
    rw [hx]

/-- Pruning does nothing where no panel besides the topmost node is empty. -/
theorem pruned_eq_self {l : Layout} (h : ∀ x ∈ l.panels, x.2.isEmpty → l = panel x.1 x.2) :
    l.pruned = l := by
  induction l with
  | panel id p => rfl
  | split id o r a b iha ihb =>
      have hne : ∀ x ∈ a.panels ++ b.panels, x.2.isEmpty = false := by
        intro x hx
        cases he : x.2.isEmpty with
        | false => rfl
        | true => exact absurd (h x hx he) (by simp)
      have ha : a.pruned = a := iha fun x hx he => by
        simp [hne x (List.mem_append_left _ hx)] at he
      have hb : b.pruned = b := ihb fun x hx he => by
        simp [hne x (List.mem_append_right _ hx)] at he
      have blank {c : Layout} (hc : ∀ x ∈ c.panels, x.2.isEmpty = false) : c.isBlank = false := by
        cases c with
        | panel id p => exact hc (id, p) (by simp [panels])
        | split => rfl
      rw [pruned, ha, hb, blank fun x hx => hne x (List.mem_append_left _ hx),
        blank fun x hx => hne x (List.mem_append_right _ hx)]
      simp

end Layout

end Docking
