import Docking.Proofs.Tree.Edits
import Docking.Proofs.Tree.Walks

/-!
# Removing panels

A panel that is removed takes the split above it along, and its sibling gets the place of the split.
Pruning repeats this for the first empty panel until there is none; it never stops early, because a
removal never fails in a tree that carries a layout.

## Main results

* `removePanel_carries`, `removePanel_holds`: the layout after the removal of a panel.
* `prune_holds`: the layout after pruning.
-/

namespace Docking

namespace Tree

open Layout hiding id

/-! ## One panel -/

private theorem removeChild_children {c : Crumb} {id : NodeId} (h : id ≠ c.sibling.id) :
    (Split.mk c.orientation c.ratio (c.children id)).removeChild id =
      (⟨c.orientation, c.ratio, [c.sibling.id]⟩, some c.sibling.id) := by
  have hbeq : (c.sibling.id == id) = false := by simpa using Ne.symm h
  unfold Split.removeChild Split.contains Crumb.children
  cases c.first <;> simp [hbeq]

/-- The panel `id` and the split above it are gone, and the sibling is where the split was. -/
private structure RemovedAt (t u : Tree) (c : Crumb) (cs : List Crumb) (id : NodeId) : Prop where
  around : u.Around cs c.sibling.id
  hangs : u.Hangs (above cs) c.sibling
  panel : u.link? id = none
  split : u.link? c.id = none
  frame : ∀ j, j ≠ id → j ≠ c.id → j ≠ c.sibling.id → above cs ≠ some j → u.link? j = t.link? j
  nextNode : u.nextNode = t.nextNode

/-- The tree in which a split has its last child only, and a removed panel is gone. -/
private def cut (t : Tree) (c : Crumb) (id : NodeId) : Tree :=
  (t.setSplit c.id ⟨c.orientation, c.ratio, [c.sibling.id]⟩).dropNode id

private theorem link?_cut (t : Tree) (c : Crumb) {id : NodeId} (j : NodeId) :
    (t.cut c id).link? j =
      if id = j then none
      else if c.id = j then
        (t.link? j).map fun n =>
          ⟨n.parent, n.body.setSplit ⟨c.orientation, c.ratio, [c.sibling.id]⟩⟩
      else t.link? j := by
  rw [cut, link?_dropNode, link?_setSplit]

/-- What an accepted removal does, step by step. -/
private theorem removePanel_eq {t u : Tree} {c : Crumb} {id : NodeId} {q : Option NodeId}
    {p : Panel} (hroot : id ≠ t.root) (hpanel : t.link? id = some ⟨some c.id, .panel p⟩)
    (hsplit : t.link? c.id = some ⟨q, .split ⟨c.orientation, c.ratio, c.children id⟩⟩)
    (hne : id ≠ c.sibling.id) (hu : (t.cut c id).replaceNode c.id c.sibling.id = .ok u) :
    t.removePanel id = (.ok true, u.dropNode c.id) := by
  obtain ⟨node, hnode, hparent, hp⟩ := exists_panel hpanel
  obtain ⟨parent, hparentNode, -, hs⟩ := exists_split hsplit
  have hcollapse : ((t.setSplit c.id ⟨c.orientation, c.ratio, [c.sibling.id]⟩).dropNode id).collapse
      c.id c.sibling.id = .ok (u.dropNode c.id) := by
    show (t.cut c id).collapse c.id c.sibling.id = _
    rw [collapse, hu]
  unfold removePanel
  simp only [hnode, hp, Option.isNone_some, Bool.false_eq_true, if_false, if_neg hroot, hparent,
    hparentNode, hs, removeChild_children hne, hcollapse]

private theorem removePanel_removedAt {t : Tree} {c : Crumb} {cs : List Crumb} {id : NodeId}
    {p : Panel} (haround : t.Around (c :: cs) id) (htrail : (trailIds (c :: cs)).Nodup)
    (hid : id ∉ trailIds (c :: cs)) (hroot : id ≠ t.root)
    (hpanel : t.link? id = some ⟨some c.id, .panel p⟩) :
    ∃ u, t.removePanel id = (.ok true, u) ∧ t.RemovedAt u c cs id := by
  obtain ⟨hsplit, hsibling, hrest⟩ := haround
  obtain ⟨hcid, hsiblingNodup, hcs, hdisjoint⟩ : c.id ∉ c.sibling.ids ++ trailIds cs ∧
      c.sibling.ids.Nodup ∧ (trailIds cs).Nodup ∧
        ∀ j ∈ c.sibling.ids, j ∉ trailIds cs := by
    rw [trailIds, List.nodup_cons, List.nodup_append] at htrail
    obtain ⟨h₁, h₂, h₃, h₄⟩ := htrail
    exact ⟨h₁, h₂, h₃, fun j hj hk => h₄ j hj j hk rfl⟩
  rw [List.mem_append, not_or] at hcid
  simp only [trailIds, List.mem_cons, List.mem_append, not_or] at hid
  obtain ⟨hidc, hidSibling, hidcs⟩ := hid
  have hne : id ≠ c.sibling.id := fun e => hidSibling (e ▸ c.sibling.id_mem_ids)
  have hcne : c.id ≠ c.sibling.id := fun e => hcid.1 (e ▸ c.sibling.id_mem_ids)
  have hcut {j : NodeId} (h₁ : id ≠ j) (h₂ : c.id ≠ j) : (t.cut c id).link? j = t.link? j := by
    rw [link?_cut, if_neg h₁, if_neg h₂]
  -- the tree that has been cut carries the trail above the split
  have haround₁ : (t.cut c id).Around cs c.id := hrest.congr rfl fun j hj =>
    hcut (fun e => hidcs (e ▸ hj)) fun e => hcid.2 (e ▸ hj)
  have hsplit₁ : (t.cut c id).link? c.id =
      some ⟨above cs, .split ⟨c.orientation, c.ratio, [c.sibling.id]⟩⟩ := by
    rw [link?_cut, if_neg hidc, if_pos rfl, hsplit]
    rfl
  obtain ⟨body, hbody⟩ := hsibling.link
  have hsibling₁ : (t.cut c id).link? c.sibling.id = some ⟨some c.id, body⟩ := by
    rw [hcut hne hcne, hbody]
  obtain ⟨t₂, ht₂, hreplaced⟩ := replaceNode_replaced haround₁ hcs hcid.2
    (hdisjoint _ c.sibling.id_mem_ids) hcne hsplit₁ hsibling₁
  have hdrop {j : NodeId} (h : c.id ≠ j) : (t₂.dropNode c.id).link? j = t₂.link? j := by
    rw [link?_dropNode, if_neg h]
  have habove {j : NodeId} (hj : j ∉ trailIds cs) : above cs ≠ some j :=
    fun e => hj (above_mem_trailIds e)
  refine ⟨t₂.dropNode c.id, removePanel_eq hroot hpanel hsplit hne ht₂, ?_⟩
  refine
    { around := ?_
      hangs := hsibling.move hsiblingNodup ?_ ?_
      panel := ?_
      split := by rw [link?_dropNode, if_pos rfl]
      frame := ?_
      nextNode := hreplaced.nextNode }
  · exact hreplaced.around.congr rfl fun j hj => hdrop fun e => hcid.2 (e ▸ hj)
  · rw [hdrop hcne, hreplaced.newLink, hbody]
    rfl
  · intro j hj hjtop
    have hjc : c.id ≠ j := fun e => hcid.1 (e ▸ hj)
    rw [hdrop hjc, hreplaced.frame j (Ne.symm hjc) hjtop (habove (hdisjoint j hj)),
      hcut (fun e => hidSibling (e ▸ hj)) hjc]
  · rw [hdrop (Ne.symm hidc), hreplaced.frame id hidc hne (habove hidcs), link?_cut, if_pos rfl]
  · intro j hjid hjc hjs hja
    rw [hdrop (Ne.symm hjc), hreplaced.frame j hjc hjs hja, hcut (Ne.symm hjid) (Ne.symm hjc)]

/-- A panel other than the root can be removed. The other nodes of the layout stay, and so do the
loose ones. -/
theorem removePanel_carries {t : Tree} {l : Layout} (h : t.Carries l) {id : NodeId} {p : Panel}
    (hp : (id, p) ∈ l.panels) (hid : id ≠ l.id) :
    ∃ u, t.removePanel id = (.ok true, u) ∧ u.Carries (l.remove id) ∧
      (∀ j, j ∉ l.ids → u.link? j = t.link? j) ∧
      (∀ j n, u.link? j = some n → j ∈ l.ids → j ∈ (l.remove id).ids) ∧
      u.nextNode = t.nextNode := by
  obtain ⟨cs, rfl, hidTrail⟩ := exists_trail h.nodup hp
  have htrail := h.nodup_plug.1
  cases cs with
  | nil => exact absurd rfl hid
  | cons c cs =>
      obtain ⟨haround, hpanel⟩ := (hangs_plug t (c :: cs) (.panel id p)).1 ⟨h.root, h.hangs⟩
      have haround : t.Around (c :: cs) id := haround
      obtain ⟨u, hu, hremoved⟩ := removePanel_removedAt haround htrail hidTrail
        (fun e => hid (e.trans h.root)) hpanel
      rw [remove_plug_panel hidTrail]
      have hframe : ∀ j, j ∉ (plug (c :: cs) (.panel id p)).ids → u.link? j = t.link? j := by
        intro j hj
        simp only [mem_ids_plug, trailIds, ids, List.mem_cons, List.mem_append, not_or,
          List.not_mem_nil, or_false] at hj
        obtain ⟨⟨hjc, hjs, hjcs⟩, hjid⟩ := hj
        exact hremoved.frame j hjid hjc (fun e => hjs (e ▸ c.sibling.id_mem_ids))
          fun e => hjcs (above_mem_trailIds e)
      refine ⟨u, hu, ?_, hframe, ?_, hremoved.nextNode⟩
      · obtain ⟨hroot, hhangs⟩ := (hangs_plug u cs c.sibling).2 ⟨hremoved.around, hremoved.hangs⟩
        refine
          { root := hroot
            hangs := hhangs
            nodup := ?_
            fresh := ?_ }
        · rw [(ids_plug cs c.sibling).nodup_iff, List.perm_append_comm.nodup_iff]
          exact (List.nodup_cons.1 htrail).2
        · intro j n hn
          rw [hremoved.nextNode]
          by_cases hj : j ∈ (plug (c :: cs) (.panel id p)).ids
          · exact h.lt_nextNode hj
          · rw [hframe j hj] at hn
            exact h.fresh hn
      · intro j n hn hj
        simp only [mem_ids_plug, trailIds, ids, List.mem_cons, List.mem_append,
          List.not_mem_nil, or_false] at hj ⊢
        rcases hj with (hj | hj | hj) | hj
        · rw [hj, hremoved.split] at hn
          cases hn
        · exact .inr hj
        · exact .inl hj
        · rw [hj, hremoved.panel] at hn
          cases hn

theorem removePanel_holds {t : Tree} {l : Layout} (h : t.Holds l) {id : NodeId} {p : Panel}
    (hp : (id, p) ∈ l.panels) (hid : id ≠ l.id) :
    ∃ u, t.removePanel id = (.ok true, u) ∧ u.Holds (l.remove id) ∧ u.nextNode = t.nextNode := by
  obtain ⟨u, hu, hcarries, hframe, hstay, hnext⟩ := removePanel_carries h.toCarries hp hid
  refine ⟨u, hu, { hcarries with all := ?_ }, hnext⟩
  intro j n hn
  by_cases hj : j ∈ l.ids
  · exact hstay j n hn hj
  · rw [hframe j hj] at hn
    exact absurd (h.all hn) hj

/-! ## All empty panels -/

/-- The first empty panel besides the topmost node. -/
private theorem emptyPanel?_eq {t : Tree} {l : Layout} (h : t.Carries l) :
    t.emptyPanel? =
      (l.panels.find? fun x => decide (x.1 ≠ l.id) && x.2.isEmpty).map Prod.fst := by
  rw [emptyPanel?, h.findPanel?_eq, h.root]

/-- What comes before the first element that passes a test does not pass it. -/
private theorem eq_false_of_mem_before {pre post : List (NodeId × Panel)} {x : NodeId × Panel}
    {test : NodeId × Panel → Bool} (h : (pre ++ x :: post).find? test = some x) (hx : x ∉ pre) :
    ∀ y ∈ pre, test y = false := by
  intro y hy
  rw [List.find?_append] at h
  cases hpre : pre.find? test with
  | none => simpa using List.find?_eq_none.1 hpre y hy
  | some z =>
      rw [hpre] at h
      obtain rfl : z = x := Option.some.inj h
      exact absurd (List.mem_of_find?_eq_some hpre) hx

/-- The removal of the first empty panel leaves the pruned layout as it is. -/
private theorem pruned_remove_first {l : Layout} (h : l.ids.Nodup) {x : NodeId × Panel}
    (hx : l.panels.find? (fun x => decide (x.1 ≠ l.id) && x.2.isEmpty) = some x) :
    (l.remove x.1).pruned = l.pruned ∧ (l.remove x.1).ids.length + 2 = l.ids.length ∧
      (l.remove x.1).panels.length + 1 = l.panels.length := by
  obtain ⟨id, p⟩ := x
  have hmem := List.mem_of_find?_eq_some hx
  have htest := List.find?_some hx
  simp only [Bool.and_eq_true, decide_eq_true_eq] at htest
  obtain ⟨hid, hempty⟩ := htest
  have htop : ∀ y ∈ l.panels, y.1 ≠ l.id := by
    intro y hy e
    exact hid (e ▸ congrArg Prod.fst (eq_of_mem_panels_top h hy e hmem))
  obtain ⟨cs, rfl, hidTrail⟩ := exists_trail h hmem
  cases cs with
  | nil => exact absurd rfl hid
  | cons c cs =>
      rw [remove_plug_panel hidTrail]
      refine ⟨pruned_remove hempty ?_, ?_, ?_⟩
      · -- what comes before the first empty panel is not empty
        intro hsecond y hy
        have hbefore : y ∈ before (c :: cs) := by
          rw [before, if_neg (by simp [hsecond])]
          exact List.mem_append_right _ hy
        have hpanels : (plug (c :: cs) (.panel id p)).panels =
            before (c :: cs) ++ (id, p) :: after (c :: cs) := by
          rw [panels_plug, List.append_assoc]
          rfl
        have hnot : (id, p) ∉ before (c :: cs) := by
          intro hm
          have hsplit := nodup_panels h
          rw [hpanels, List.map_append, List.nodup_append] at hsplit
          exact hsplit.2.2 id (List.mem_map.2 ⟨_, hm, rfl⟩) id (by simp) rfl
        have hfirst := eq_false_of_mem_before (hpanels ▸ hx) hnot y hbefore
        have hyid := htop y (by rw [hpanels]; simp [hbefore])
        simpa [hyid] using hfirst
      · rw [(ids_plug cs c.sibling).length_eq, (ids_plug (c :: cs) (.panel id p)).length_eq]
        simp only [trailIds, ids, List.length_append, List.length_cons, List.length_nil]
        omega
      · rw [panels_plug, panels_plug, before, after, panels]
        cases c.first <;>
          simp only [Bool.false_eq_true, if_true, if_false, List.length_append, List.length_cons,
            List.length_nil] <;> omega

/-- What a round of pruning does: an empty panel disappears from `t`, which held the layout `l`. The
tree is `u` and its layout `m` then. -/
structure PruneRound (t u : Tree) (l m : Layout) : Prop where
  holds : u.Holds m
  pruned : m.pruned = l.pruned
  ids : m.ids.length + 2 = l.ids.length
  panels : m.panels.length + 1 = l.panels.length
  nextNode : u.nextNode = t.nextNode

/-- Either no panel is left to prune, or the first one can be removed. -/
theorem pruneRound {t : Tree} {l : Layout} (h : t.Holds l) :
    (t.emptyPanel? = none ∧ l.pruned = l) ∨
      ∃ id u m, t.emptyPanel? = some id ∧ t.removePanel id = (.ok true, u) ∧
        t.PruneRound u l m := by
  have hempty := emptyPanel?_eq h.toCarries
  cases hfind : l.panels.find? fun x => decide (x.1 ≠ l.id) && x.2.isEmpty with
  | none =>
      rw [hfind, Option.map_none] at hempty
      have hself : l.pruned = l := by
        refine pruned_eq_self fun x hx he => eq_panel_of_mem_panels h.nodup hx ?_
        have := List.find?_eq_none.1 hfind x hx
        simpa [he] using this
      exact .inl ⟨hempty, hself⟩
  | some x =>
      rw [hfind, Option.map_some] at hempty
      have hx : x ∈ l.panels := List.mem_of_find?_eq_some hfind
      have hid : x.1 ≠ l.id := by
        have := List.find?_some hfind
        simp only [Bool.and_eq_true, decide_eq_true_eq] at this
        exact this.1
      obtain ⟨u, hu, hholds, hnext⟩ := removePanel_holds h (p := x.2) hx hid
      obtain ⟨hpruned, hids, hpanels⟩ := pruned_remove_first h.nodup hfind
      exact .inr ⟨x.1, u, l.remove x.1, hempty, hu, hholds, hpruned, hids, hpanels, hnext⟩

/-- Enough rounds of pruning prune the layout, and the count says how many panels disappear. -/
theorem pruneRounds_holds {t : Tree} {l : Layout} (h : t.Holds l) {rounds : Nat}
    (hrounds : l.ids.length ≤ rounds) :
    (pruneRounds rounds t).2.Holds l.pruned ∧
      (pruneRounds rounds t).1 + l.pruned.panels.length = l.panels.length ∧
      (pruneRounds rounds t).2.nextNode = t.nextNode := by
  induction rounds generalizing t l with
  | zero =>
      have := List.length_pos_of_mem l.id_mem_ids
      omega
  | succ rounds ih =>
      rw [pruneRounds]
      rcases pruneRound h with ⟨hempty, hself⟩ | ⟨id, u, m, hempty, hu, hround⟩
      · rw [hempty, hself]
        exact ⟨h, Nat.zero_add _, rfl⟩
      · have hids := hround.ids
        have hpanels := hround.panels
        obtain ⟨hrest, hcount, hnext⟩ := ih hround.holds (by omega)
        rw [hround.pruned] at hrest hcount
        rw [hempty]
        simp only [hu]
        exact ⟨hrest, by omega, hnext.trans hround.nextNode⟩

/-- Pruning a tree prunes its layout. -/
theorem prune_holds {t : Tree} {l : Layout} (h : t.Holds l) :
    t.prune.2.Holds l.pruned ∧ t.prune.1 + l.pruned.panels.length = l.panels.length ∧
      t.prune.2.nextNode = t.nextNode := by
  obtain ⟨hholds, hcount, hnext⟩ := pruneRounds_holds h h.length_ids_le
  unfold prune
  refine ⟨?_, hcount, ?_⟩
  · dsimp only
    split
    · exact hholds.relayout
    · exact hholds
  · dsimp only
    split <;> exact hnext

end Tree

end Docking
