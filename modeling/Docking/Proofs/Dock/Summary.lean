import Docking.Dock.Summary
import Docking.Proofs.Dock.Steps
import Docking.Proofs.Tree.Linked
import Mathlib.Algebra.BigOperators.Group.List.Basic
import Mathlib.Algebra.GroupWithZero.Nat

/-!
# What a summary counts

A summary counts panels and floating items only. Splits and docked tabs are what is left of the
nodes and of the items, so these two numbers are right only if no node hangs loose, if there is one
split less than there are panels, and if the items and the panels name the same tabs. In every dock
that a run leads to they are right, and nothing is cut off in the subtractions.

## Main definitions

* `Tree.tabCount`, `Dock.floatingCount`: the tabs of all panels, and the items that float.
* `Summary.Counts`: a summary says how many there are.

## Main results

* `Tree.size_eq`: every node is a panel or a split.
* `Dock.Sound.dockedCount_eq`: the docked items are the tabs of the panels.
* `Summary.diff?_eq_none_iff`: nothing is different exactly if all counts are equal.
* `Summary.run_counts`: the summary of a dock after every run.
-/

namespace Docking

/-! ## Nodes and the tabs of panels -/

namespace Tree

open Layout hiding id

/-- How many tabs there are in all panels, wherever the panels hang. -/
def tabCount (t : Tree) : Nat :=
  ((t.nodes.keys.filterMap t.panel?).map fun p => p.tabs.length).sum

section Counts

variable {t : Tree} {l : Layout} {q : Option NodeId} {id : NodeId}

theorem isSome_split?_iff (h : t.contains id) : (t.split? id).isSome ↔ ¬ (t.panel? id).isSome := by
  obtain ⟨node, hnode⟩ := Option.isSome_iff_exists.1 h
  rw [split?, panel?, hnode, Option.bind_some, Option.bind_some, Node.split?, Node.panel?]
  cases node.body <;> simp

/-- Every node is a panel or a split. -/
theorem size_eq (t : Tree) : t.size = t.panelCount + t.splitCount := by
  have hkeys : t.size = t.nodes.keys.length := (List.length_map _).symm
  rw [hkeys, List.length_eq_countP_add_countP fun id => (t.panel? id).isSome]
  refine congrArg _ (List.countP_congr fun id hid => ?_)
  rw [decide_eq_true_eq]
  exact (isSome_split?_iff (Table.mem_keys_iff.1 hid)).symm

/-- The panels among the nodes of a layout, with their contents. -/
theorem Hangs.filterMap_ids (h : t.Hangs q l) :
    l.ids.filterMap t.panel? = l.panels.map Prod.snd := by
  induction l generalizing q with
  | panel i p =>
      have hpanel : t.panel? i = some p := panel?_eq_some_iff.2 ⟨q, h⟩
      simp [ids, panels, hpanel]
  | split i o r a b iha ihb =>
      obtain ⟨hi, ha, hb⟩ := h
      have hpanel : t.panel? i = none := by
        rw [panel?_eq, hi]
        rfl
      rw [ids, panels, List.filterMap_cons_none hpanel, List.filterMap_append, iha ha, ihb hb,
        List.map_append]

theorem Bears.tabCount_eq (h : t.Bears l) : t.tabCount = l.tabIds.length := by
  rw [tabCount, ((h.keys_perm.filterMap t.panel?).map _).sum_eq, h.hangs.filterMap_ids, tabIds,
    List.length_flatMap, List.map_map]
  simp only [Panel.length_tabIds]
  rfl

end Counts

end Tree

/-! ## Items -/

namespace Dock

variable {d : Dock} {l : Layout}

/-- How many open tabs float. -/
def floatingCount (d : Dock) : Nat :=
  d.items.keys.countP fun tab => (d.item? tab).any Item.isFloating

theorem countP_isFloating (d : Dock) : d.items.values.countP Item.isFloating = d.floatingCount := by
  rw [floatingCount, Table.values, Table.keys, List.countP_map, List.countP_map]
  refine List.countP_congr ?_
  rintro ⟨tab, item⟩ hmem
  have hitem : d.item? tab = some item := Table.get?_eq_some_iff.2 hmem
  simp [hitem]

/-- The docked items are those of the tabs that the panels show. -/
theorem Sound.dockedCount_eq (h : d.Sound l) :
    d.items.size = l.tabIds.length + d.floatingCount := by
  have hkeys : d.items.size = d.items.keys.length := (List.length_map _).symm
  have hdocked : (d.items.keys.filter fun tab => (d.panelOf? tab).isSome).Perm l.tabIds := by
    refine (List.perm_ext_iff_of_nodup (d.items.nodup_keys.filter _) h.tidy.nodup).2 fun tab => ?_
    rw [List.mem_filter, Layout.mem_tabIds, Option.isSome_iff_exists]
    simp only [h.shown, Table.mem_keys_iff]
    refine and_iff_right_of_imp fun ⟨panel, hshows⟩ => ?_
    obtain ⟨item, hitem, -⟩ := panelOf?_eq_some_iff.1 (h.shown.2 hshows)
    exact Option.isSome_of_mem hitem
  rw [hkeys, List.length_eq_countP_add_countP fun tab => (d.panelOf? tab).isSome,
    List.countP_eq_length_filter, hdocked.length_eq, floatingCount]
  refine congrArg _ (List.countP_congr fun tab htab => ?_)
  -- an item that is in no panel floats
  obtain ⟨item, hitem⟩ := Option.isSome_iff_exists.1 (Table.mem_keys_iff.1 htab)
  have hitem : d.item? tab = some item := hitem
  rw [panelOf?, hitem, Option.any_some, Option.bind_some, Item.isFloating_eq]
  simp

end Dock

namespace Summary

/-- A summary says how much there is of everything in a dock. -/
structure Counts (c : Summary) (d : Dock) : Prop where
  panels : c.panels = d.tree.panelCount
  splits : c.splits = d.tree.splitCount
  /-- There is one split less than there are panels. -/
  oneLess : c.splits + 1 = c.panels
  docked : c.docked = d.tree.tabCount
  floating : c.floating = d.floatingCount
  /-- The panels and the splits are all nodes, so no node is cut off. -/
  nodes : c.panels + c.splits = d.tree.size
  /-- The docked and the floating tabs are all items, so no item is cut off. -/
  items : c.docked + c.floating = d.items.size

theorem change?_eq_none_iff {name : String} {before after : Nat} :
    change? name before after = none ↔ before = after := by
  rw [change?]
  split <;> simp_all

/-- Nothing is said to be different exactly if all counts are equal. -/
theorem diff?_eq_none_iff {before after : Summary} : before.diff? after = none ↔
    before.panels = after.panels ∧ before.splits = after.splits ∧ before.docked = after.docked ∧
      before.floating = after.floating := by
  unfold diff?
  simp only [ite_eq_left_iff, reduceCtorEq, imp_false, not_not, List.isEmpty_iff,
    List.filterMap_eq_nil_iff]
  simp [change?_eq_none_iff]

section Sound

variable {d : Dock} {l : Layout}

/-- What is counted, and what the subtractions leave. -/
theorem ofDock_eq (h : d.Sound l) :
    ofDock d = ⟨d.tree.panelCount, d.tree.splitCount, d.tree.tabCount, d.floatingCount⟩ := by
  have hbears := h.holds.bears
  have hpanels : d.tree.panelIds.length = d.tree.panelCount := by
    rw [h.holds.panelIds_eq, List.length_map, hbears.panelCount_eq]
  have hsplits : d.tree.size - d.tree.panelCount = d.tree.splitCount := by
    rw [d.tree.size_eq, Nat.add_sub_cancel_left]
  have hdocked : d.items.size - d.floatingCount = d.tree.tabCount := by
    rw [h.dockedCount_eq, Nat.add_sub_cancel, hbears.tabCount_eq]
  simp only [ofDock, d.countP_isFloating, hpanels, hsplits, hdocked]

theorem counts_of_sound (h : d.Sound l) : (ofDock d).Counts d := by
  have hbears := h.holds.bears
  rw [ofDock_eq h]
  exact
    { panels := rfl
      splits := rfl
      oneLess := hbears.splitCount_eq.trans hbears.panelCount_eq.symm
      docked := rfl
      floating := rfl
      nodes := d.tree.size_eq.symm
      items := by rw [h.dockedCount_eq, hbears.tabCount_eq] }

end Sound

/-- The summary of a dock after any run of operations says how many panels, splits, docked tabs and
floating tabs there are; the splits are one less than the panels, and none of the subtractions cuts
anything off. Two summaries are said to be different exactly if one of the counts is. -/
theorem run_counts (settings : DragSettings) (ops : List Operation) (before after : Summary) :
    (ofDock ((Dock.new settings).run ops)).Counts ((Dock.new settings).run ops) ∧
      (before.diff? after = none ↔ before.panels = after.panels ∧ before.splits = after.splits ∧
        before.docked = after.docked ∧ before.floating = after.floating) := by
  obtain ⟨l, h⟩ := Dock.run_sound settings ops
  exact ⟨counts_of_sound h, diff?_eq_none_iff⟩

end Summary

end Docking
