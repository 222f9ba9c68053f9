import Docking.Proofs.Tree.Linked
import Docking.Proofs.Tree.Refusals

/-!
# Pruning

Pruning is a loop: as long as there is an empty panel besides the root, the first one is removed.
The loop asks nowhere how often it has been round, and every removal changes the root, the splits or
the parent links that the next search goes along. It comes to an end all the same, because a removal
never fails in a tree whose links agree, and takes two nodes away. The panels that hold tabs are
left in their order; where there are none, the panel that is left is the last one, since the first
of several empty panels is removed before it.

`Tree.prune` is the loop with a bound on how often it goes round. The bound is never met.

## Main definitions

* `Tree.Goes`, `Tree.Prunes`: the loop, and the loop with the layout pass behind it.
* `Tree.Pruned`: what is left of a tree.

## Main results

* `goes_pruneRounds`: the loop comes to an end where enough rounds of pruning do.
* `Goes.bears`: the layout at the end of the loop.
* `Linked.prune_ends`: pruning comes to an end, in one way only, and what it leaves.
-/

namespace Docking

namespace Tree

open Layout hiding id

/-- The loop removes the first empty panel besides the root as long as there is one. It stops if
there is none, or if a removal is refused; the number says how often it has gone round. -/
inductive Goes : Tree → Nat → Tree → Prop
  | done {t : Tree} (h : t.emptyPanel? = none) : Goes t 0 t
  | stop {t u : Tree} {id : NodeId} {outcome : Except EditError Bool}
      (h : t.emptyPanel? = some id) (hremove : t.removePanel id = (outcome, u))
      (hrefused : outcome ≠ .ok true) : Goes t 0 u
  | next {t u v : Tree} {id : NodeId} {count : Nat} (h : t.emptyPanel? = some id)
      (hremove : t.removePanel id = (.ok true, u)) (hrest : Goes u count v) : Goes t (count + 1) v

/-- The loop with the layout pass that follows if anything was removed. -/
def Prunes (t : Tree) (count : Nat) (u : Tree) : Prop :=
  ∃ v, t.Goes count v ∧ u = if count > 0 then v.relayout else v

/-- What is left in `u` of the tree `t` when `count` panels have gone. -/
structure Pruned (t u : Tree) (count : Nat) : Prop where
  /-- The links agree. -/
  linked : u.Linked
  /-- Only the root can be empty. -/
  filled : ∀ {id p}, u.panel? id = some p → p.isEmpty → id = u.root
  /-- Where some panel holds a tab, those that do are left in their order. -/
  kept : (∃ x ∈ t.panelList, x.2.isEmpty = false) →
    u.panelList = t.panelList.filter fun x => !x.2.isEmpty
  /-- Where no panel holds a tab, the last one is left. -/
  last : (∀ x ∈ t.panelList, x.2.isEmpty) →
    ∃ x, t.panelList.getLast? = some x ∧ u.panelList = [x] ∧ u.root = x.1
  /-- As many panels have gone as the count says. -/
  panels : count + u.panelCount = t.panelCount
  /-- As many splits have gone as the count says. -/
  splits : count + u.splitCount = t.splitCount

section Pruning

variable {t u v : Tree} {l : Layout} {count : Nat}

/-! ## The loop -/

/-- The loop ends in one way only. -/
theorem Goes.unique {count' : Nat} (h : t.Goes count u) (h' : t.Goes count' v) :
    count = count' ∧ u = v := by
  induction h generalizing count' v with
  | done hnone =>
      cases h' with
      | done => exact ⟨rfl, rfl⟩
      | stop hsome => cases hnone.symm.trans hsome
      | next hsome => cases hnone.symm.trans hsome
  | stop hsome hremove hrefused =>
      cases h' with
      | done hnone => cases hsome.symm.trans hnone
      | stop hsome' hremove' =>
          obtain rfl := Option.some.inj (hsome.symm.trans hsome')
          exact ⟨rfl, (Prod.mk.inj (hremove.symm.trans hremove')).2⟩
      | next hsome' hremove' =>
          obtain rfl := Option.some.inj (hsome.symm.trans hsome')
          exact absurd (Prod.mk.inj (hremove.symm.trans hremove')).1 hrefused
  | next hsome hremove hrest ih =>
      cases h' with
      | done hnone => cases hsome.symm.trans hnone
      | stop hsome' hremove' hrefused =>
          obtain rfl := Option.some.inj (hsome.symm.trans hsome')
          exact absurd (Prod.mk.inj (hremove'.symm.trans hremove)).1 hrefused
      | next hsome' hremove' hrest' =>
          obtain rfl := Option.some.inj (hsome.symm.trans hsome')
          obtain rfl := (Prod.mk.inj (hremove.symm.trans hremove')).2
          obtain ⟨rfl, rfl⟩ := ih hrest'
          exact ⟨rfl, rfl⟩

/-- In a tree whose links agree, either nothing is left to prune, or the first empty panel can be
removed. -/
private theorem Bears.round (h : t.Bears l) :
    (t.emptyPanel? = none ∧ l.pruned = l) ∨
      ∃ id u m, t.emptyPanel? = some id ∧ t.removePanel id = (.ok true, u) ∧ u.Bears m ∧
        m.pruned = l.pruned ∧ m.ids.length + 2 = l.ids.length ∧
        m.panels.length + 1 = l.panels.length := by
  obtain ⟨next, hholds⟩ := h.exists_holds
  -- a round of pruning is the same whatever the counter is
  rcases pruneRound hholds with ⟨hnone, hself⟩ | ⟨id, u, m, hempty, hremove, hround⟩
  · rw [emptyPanel?_countingFrom] at hnone
    exact .inl ⟨hnone, hself⟩
  · rw [emptyPanel?_countingFrom] at hempty
    rw [removePanel_countingFrom] at hremove
    obtain ⟨houtcome, rfl⟩ := Prod.mk.inj hremove
    exact .inr ⟨id, (t.removePanel id).2, m, hempty, Prod.ext houtcome rfl,
      hround.holds.bears_of_countingFrom, hround.pruned, hround.ids, hround.panels⟩

/-- The loop comes to an end where enough rounds of pruning do. -/
theorem goes_pruneRounds (h : t.Bears l) {rounds : Nat} (hrounds : l.ids.length ≤ rounds) :
    t.Goes (pruneRounds rounds t).1 (pruneRounds rounds t).2 := by
  induction rounds generalizing t l with
  | zero =>
      have := List.length_pos_of_mem l.id_mem_ids
      omega
  | succ rounds ih =>
      rw [pruneRounds]
      rcases h.round with ⟨hnone, -⟩ | ⟨id, u, m, hempty, hremove, hu, -, hids, -⟩
      · rw [hnone]
        exact .done hnone
      · have hrest := ih hu (by omega)
        rw [hempty]
        simp only [hremove]
        exact .next hempty hremove hrest

/-- At the end of the loop the layout is pruned, and the count says how many panels have gone. -/
theorem Goes.bears (h : t.Goes count u) (ht : t.Bears l) :
    u.Bears l.pruned ∧ count + l.pruned.panels.length = l.panels.length := by
  induction h generalizing l with
  | done hnone =>
      rcases ht.round with ⟨-, hself⟩ | ⟨id, -, -, hsome, -⟩
      · rw [hself]
        exact ⟨ht, Nat.zero_add _⟩
      · cases hnone.symm.trans hsome
  | stop hsome hremove hrefused =>
      rcases ht.round with ⟨hnone, -⟩ | ⟨id, u, m, hsome', hremove', -⟩
      · cases hnone.symm.trans hsome
      · obtain rfl := Option.some.inj (hsome.symm.trans hsome')
        exact absurd (Prod.mk.inj (hremove.symm.trans hremove')).1 hrefused
  | next hsome hremove hrest ih =>
      rcases ht.round with ⟨hnone, -⟩ | ⟨id, u, m, hsome', hremove', hu, hpruned, -, hpanels⟩
      · cases hnone.symm.trans hsome
      · obtain rfl := Option.some.inj (hsome.symm.trans hsome')
        obtain rfl := (Prod.mk.inj (hremove.symm.trans hremove')).2
        obtain ⟨hbears, hcount⟩ := ih hu
        rw [hpruned] at hbears hcount
        exact ⟨hbears, by omega⟩

/-- Pruning is the loop. -/
private theorem Bears.prunes_iff (h : t.Bears l) :
    t.Prunes count u ↔ t.prune = (count, u) := by
  have hloop := goes_pruneRounds h (h.hangs.length_ids_le h.nodup)
  constructor
  · rintro ⟨v, hgoes, rfl⟩
    obtain ⟨rfl, rfl⟩ := hgoes.unique hloop
    rfl
  · intro hprune
    rw [← (Prod.mk.inj hprune).1, ← (Prod.mk.inj hprune).2]
    exact ⟨_, hloop, rfl⟩

/-! ## What is left -/

theorem Bears.panelList_eq (h : t.Bears l) : t.panelList = l.panels := by
  have hids : t.panelIds = l.panels.map Prod.fst := by
    rw [panelIds, h.root]
    exact h.hangs.panelsBelow_eq
      (Nat.le_trans l.height_le_length_ids (h.hangs.length_ids_le h.nodup))
  rw [panelList, hids, h.hangs.filterMap_panel?]

theorem Bears.mem_panels (h : t.Bears l) {id : NodeId} {p : Panel} (hp : t.panel? id = some p) :
    (id, p) ∈ l.panels := by
  obtain ⟨q, hq⟩ := panel?_eq_some_iff.1 hp
  exact h.hangs.mem_panels (h.all (contains_of_link? hq)) hq

private theorem Bears.pruned (h : t.Bears l) (hu : u.Bears l.pruned)
    (hcount : count + l.pruned.panels.length = l.panels.length) : t.Pruned u count := by
  have hpanels := hu.panelCount_eq
  have hpanels' := h.panelCount_eq
  have hsplits := hu.splitCount_eq
  have hsplits' := h.splitCount_eq
  refine
    { linked := hu.linked
      filled := ?_
      kept := ?_
      last := ?_
      panels := by omega
      splits := by omega }
  · intro id p hp he
    rw [hu.root, eq_panel_of_mem_pruned (hu.mem_panels hp) he, id_panel]
  · rw [h.panelList_eq, hu.panelList_eq]
    rintro ⟨x, hx, hfull⟩
    rcases l.panels_pruned with ⟨-, hkept⟩ | ⟨-, -, hblank⟩
    · exact hkept
    · rw [hblank x hx] at hfull
      cases hfull
  · rw [h.panelList_eq, hu.panelList_eq]
    intro hblank
    obtain ⟨x, hx, hpruned⟩ := pruned_of_blank hblank
    refine ⟨x, hx, ?_, ?_⟩
    · rw [hpruned]
      rfl
    · rw [hu.root, hpruned, id_panel]

/-- Pruning a tree whose links agree comes to an end, whatever is in its panels, and there is only
one way in which it ends. The links agree afterwards and no panel but the root can be empty. The
panels that hold tabs are left as they were and in the same order; where there are none the last
panel is left. The count says how many panels have gone, and how many splits. -/
theorem Linked.prune_ends (h : t.Linked) :
    (∀ count u, t.Prunes count u ↔ t.prune = (count, u)) ∧ t.Pruned t.prune.2 t.prune.1 := by
  obtain ⟨l, hl⟩ := linked_iff_bears.1 h
  have hprunes : t.Prunes t.prune.1 t.prune.2 := hl.prunes_iff.2 rfl
  obtain ⟨v, hgoes, hv⟩ := hprunes
  obtain ⟨hbears, hcount⟩ := hgoes.bears hl
  refine ⟨fun count u => hl.prunes_iff, hl.pruned ?_ hcount⟩
  rw [hv]
  split
  · exact hbears.congr rfl fun j => link?_relayout v j
  · exact hbears

/-- Three panels, of which the first and the last are empty. The split of the last is below that of
the first. -/
def emptyAround : Tree :=
  new.edits [
    .insertPanel .empty,
    .splitPanel ⟨1⟩ ⟨2⟩ .row false,
    .insertPanel (.single ⟨⟨1⟩, "notes", ⟨⟨1⟩, "notes"⟩⟩),
    .splitPanel ⟨2⟩ ⟨4⟩ .column true]

/-- Both empty panels go, and the panel between them is the root. -/
theorem emptyAround_prune_ends :
    let kept : Panel := .single ⟨⟨1⟩, "notes", ⟨⟨1⟩, "notes"⟩⟩
    let left := emptyAround.prune.2
    emptyAround.Linked ∧ emptyAround.panelList = [(⟨1⟩, .empty), (⟨4⟩, kept), (⟨2⟩, .empty)] ∧
      (∀ count u, emptyAround.Prunes count u ↔ (2, left) = (count, u)) ∧ left.Linked ∧
      left.root = ⟨4⟩ ∧ left.panelList = [(⟨4⟩, kept)] ∧
      2 + left.splitCount = emptyAround.splitCount := by
  intro kept left
  have hbears : emptyAround.Bears (.split ⟨3⟩ .row 0.5 (.panel ⟨1⟩ .empty)
      (.split ⟨5⟩ .column 0.5 (.panel ⟨4⟩ kept) (.panel ⟨2⟩ .empty))) := by
    have hkeys : ∀ id ∈ emptyAround.nodes.keys, id ∈ [(⟨3⟩ : NodeId), ⟨1⟩, ⟨5⟩, ⟨4⟩, ⟨2⟩] := by
      decide +kernel
    exact
      { root := rfl
        hangs := ⟨rfl, rfl, rfl, rfl, rfl⟩
        nodup := by decide
        all := fun hid => hkeys _ (Table.mem_keys_iff.2 hid) }
  have hlist : emptyAround.panelList = [(⟨1⟩, .empty), (⟨4⟩, kept), (⟨2⟩, .empty)] :=
    hbears.panelList_eq
  have hcount : emptyAround.prune.1 = 2 := by decide +kernel
  have hroot : left.root = ⟨4⟩ := by decide +kernel
  obtain ⟨hends, hpruned⟩ := Linked.prune_ends hbears.linked
  have hkept := hpruned.kept ⟨(⟨4⟩, kept), by simp [hlist], rfl⟩
  have hsplits := hpruned.splits
  rw [hlist] at hkept
  rw [hcount] at hsplits
  refine ⟨hbears.linked, hlist, fun count u => ?_, hpruned.linked, hroot, hkept, hsplits⟩
  rw [hends, ← hcount]

end Pruning

end Tree

end Docking
