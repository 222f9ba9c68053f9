import Docking.Proofs.Tree.Areas
import Docking.Proofs.Tree.Linked
import Docking.Proofs.Tree.Refusals

/-!
# Undoing a split

A panel that hangs nowhere can be put beside any panel of a tree whose links agree otherwise. When
it is removed again, the split that it came with goes as well, and the panel that was split is back
where it was: all other nodes are as before. So are all areas after a layout pass, if every split
divided its area before. Only the counter remembers.

## Main definitions

* `Tree.Awaits`: the links agree but for one panel that hangs nowhere.

## Main results

* `remove_graft_beside`: in a layout, the removal of a panel that was put beside another one.
* `Awaits.exists_layout`: the other nodes form a layout.
* `Awaits.removePanel_splitPanel`: the removal of a panel undoes the split.
-/

namespace Docking

namespace Layout

/-- A layout without a panel that has been put beside another one is the layout as it was. -/
theorem remove_graft_beside {l : Layout} (h : l.ids.Nodup) {target id new : NodeId} {p p' : Panel}
    (hp : (target, p) ∈ l.panels) (hnew : new ∉ l.ids) (hne : new ≠ id) (o : Orientation)
    (first : Bool) :
    (l.graft target fun p => beside id o first (panel new p') (panel target p)).remove new = l := by
  obtain ⟨cs, rfl, htarget⟩ := exists_trail h hp
  -- the new split is the last step of the way to the new panel, the old panel is beside that way
  let c : Crumb := ⟨id, o, 0.5, first, panel target p⟩
  have hfill : beside id o first (panel new p') (panel target p) = c.fill (panel new p') := rfl
  rw [mem_ids_plug, ids, List.mem_singleton, not_or] at hnew
  have htrail : new ∉ trailIds (c :: cs) := by
    simp only [trailIds, ids, List.mem_cons, List.mem_append, List.not_mem_nil, or_false, not_or, c]
    exact ⟨hne, hnew.2, hnew.1⟩
  rw [graft_plug_panel htarget, hfill, ← plug, remove_plug_panel htrail]

end Layout

namespace Tree

open Layout hiding id

/-- The links of the tree agree but for the panel `n`, which hangs nowhere. The counter is past all
names. -/
structure Awaits (t : Tree) (n : NodeId) (p : Panel) : Prop where
  /-- The links of all other nodes agree. -/
  linked : (t.dropNode n).Linked
  /-- The panel has no parent. -/
  loose : t.panel? n = some p ∧ t.parent? n = none
  /-- A new node gets a new name. -/
  fresh : ∀ {id}, t.contains id → id.number < t.nextNode

section Undoing

variable {t u : Tree} {l : Layout} {n target id : NodeId} {p q : Panel} {area : Rect}

/-! ## The loose panel -/

theorem contains_dropNode : (t.dropNode n).contains id ↔ t.contains id ∧ id ≠ n := by
  rw [contains_eq, contains_eq, link?_dropNode]
  split
  · next h => simp [h]
  · next h => simp [Ne.symm h]

theorem Awaits.link (h : t.Awaits n p) : t.link? n = some ⟨none, .panel p⟩ := by
  obtain ⟨q, hq⟩ := panel?_eq_some_iff.1 h.loose.1
  have hparent := h.loose.2
  rw [parent?_eq, hq] at hparent
  rw [hq, show q = none from hparent]

/-- The other nodes form a layout, and the tree carries it. -/
theorem Awaits.exists_layout (h : t.Awaits n p) :
    ∃ l, (t.dropNode n).Holds l ∧ t.Carries l ∧ n ∉ l.ids ∧
      ∀ {j x}, t.link? j = some x → j ≠ n → j ∈ l.ids := by
  obtain ⟨l, hl⟩ := linked_iff_bears.1 h.linked
  have hloose : n ∉ l.ids := by
    intro hn
    exact (contains_dropNode.1 (hl.contains_iff.2 hn)).2 rfl
  have hdrop : ∀ j ∈ l.ids, t.link? j = (t.dropNode n).link? j := by
    intro j hj
    rw [link?_dropNode, if_neg fun e : n = j => hloose (e ▸ hj)]
  refine ⟨l, ?_, ?_, hloose, fun hx hj => ?_⟩
  · exact
      { root := hl.root
        hangs := hl.hangs
        nodup := hl.nodup
        fresh := fun hx => h.fresh (contains_dropNode.1 (contains_of_link? hx)).1
        all := fun hx => hl.all (contains_of_link? hx) }
  · exact
      { root := hl.root
        hangs := hl.hangs.congr hdrop
        nodup := hl.nodup
        fresh := fun hx => h.fresh (contains_of_link? hx) }
  · exact hl.all (contains_dropNode.2 ⟨contains_of_link? hx, hj⟩)

/-- The loose panel has no part in how the areas are divided. -/
theorem Awaits.arranged_dropNode (h : t.Awaits n p) (harranged : t.Arranged area) :
    (t.dropNode n).Arranged area := by
  have hrect : ∀ {id}, (t.dropNode n).contains id → (t.dropNode n).rect? id = t.rect? id := by
    intro id hid
    rw [rect?, rect?, dropNode, Table.get?_erase, if_neg (Ne.symm (contains_dropNode.1 hid).2)]
  refine
    { root := (hrect h.linked.root.1).trans harranged.root
      split := ?_ }
  intro id s hs
  obtain ⟨q, hlink⟩ := split?_eq_some_iff.1 hs
  have hid := contains_of_link? hlink
  have hs' : t.split? id = some s := by
    rw [link?_dropNode, if_neg (Ne.symm (contains_dropNode.1 hid).2)] at hlink
    exact split?_eq_some_iff.2 ⟨q, hlink⟩
  obtain ⟨a, b, rect, hab, hrectId, hrectA, hrectB⟩ := harranged.split hs'
  obtain ⟨a', b', hab', -, ha, hb⟩ := h.linked.children hs
  obtain ⟨rfl, rfl⟩ : a = a' ∧ b = b' := by simpa [hab] using hab'
  exact ⟨a, b, rect, hab, (hrect hid).trans hrectId,
    (hrect (contains_of_parent? ha)).trans hrectA, (hrect (contains_of_parent? hb)).trans hrectB⟩

/-- If every split divided its area, a tree that holds the layout of the other nodes gives them the
areas that they had, in a pass for the same viewport. -/
private theorem Awaits.relayout_eq {v : Tree} (h : t.Awaits n p) (hl : (t.dropNode n).Holds l)
    (hv : v.Holds l) (hnext : v.nextNode = t.nextNode + 1) (hviewport : v.viewport = t.viewport)
    (harranged : t.Arranged t.viewport) :
    v.relayout = (t.dropNode n).countingFrom (t.nextNode + 1) := by
  have hcounting : ((t.dropNode n).countingFrom (t.nextNode + 1)).Holds l :=
    { hl with
      hangs := hl.hangs.congr fun _ _ => rfl
      fresh := fun hx => Nat.lt_succ_of_lt (hl.fresh hx) }
  have hdrop := h.arranged_dropNode harranged
  exact hv.relayout.eq_of_relayout hcounting hnext hviewport
    (hv.relayout_computeLayout v.viewport)
    (hcounting.relayout_eq_iff.2 ⟨hdrop.root, hdrop.split⟩)

/-! ## There and back -/

/-- A panel that hangs nowhere can be put beside any other panel. Its removal undoes that: the other
nodes are linked as they were before, and have the areas that they had before after a layout pass,
if every split divided its area. -/
theorem Awaits.removePanel_splitPanel (h : t.Awaits n p)
    (htarget : (t.dropNode n).panel? target = some q) (o : Orientation) (first : Bool) :
    ∃ s u v, t.splitPanel target n o first = (.ok s, u) ∧ t.contains s = false ∧
      u.split? s = some (.pair o (if first then n else target) (if first then target else n)) ∧
      u.Linked ∧ u.removePanel n = (.ok true, v) ∧ v.root = t.root ∧
      (∀ j, v.link? j = (t.dropNode n).link? j) ∧
      (t.Arranged t.viewport → v.relayout = (t.dropNode n).countingFrom (t.nextNode + 1)) := by
  obtain ⟨l, hl, ht, hloose, hall⟩ := h.exists_layout
  have hq : (target, q) ∈ l.panels := hl.panel?_eq_some_iff.1 htarget
  obtain ⟨u, hu, huholds, hunext⟩ := splitPanel_holds_of_loose ht hq h.link hloose hall o first
  have hfresh : t.contains ⟨t.nextNode⟩ = false := by
    rw [Bool.eq_false_iff]
    exact fun hs => Nat.lt_irrefl _ (h.fresh hs)
  have hne : n ≠ ⟨t.nextNode⟩ := by
    rintro rfl
    cases hfresh.symm.trans (contains_of_link? h.link)
  obtain ⟨⟨_, hsplit⟩, hn, -⟩ := huholds.link_beside hl.nodup hq
  have hpanel := huholds.panel?_eq_some_iff.1 (panel?_eq_some_iff.2 ⟨_, hn⟩)
  -- the panel has a parent now, which the topmost node has not
  have htop : n ≠ (l.graft target fun q =>
      beside ⟨t.nextNode⟩ o first (.panel n p) (.panel target q)).id := by
    intro htop
    obtain ⟨body, hbody⟩ := huholds.hangs.link
    rw [← htop, hn] at hbody
    cases hbody
  obtain ⟨v, hv, hvholds, hvnext⟩ := removePanel_holds huholds hpanel htop
  rw [remove_graft_beside hl.nodup hq hloose hne] at hvholds
  have hviewport : v.viewport = t.viewport := by
    have hremoved := viewport_removePanel u n
    have hsplitted := viewport_splitPanel t target n o first
    rw [hv] at hremoved
    rw [hu] at hsplitted
    exact hremoved.trans hsplitted
  refine ⟨⟨t.nextNode⟩, u, v, hu, hfresh, split?_eq_some_iff.2 ⟨_, hsplit⟩, huholds.bears.linked,
    hv, hvholds.root.trans hl.root.symm, hvholds.link?_eq hl, ?_⟩
  intro harranged
  exact h.relayout_eq hl hvholds (hvnext.trans hunext) hviewport harranged

/-- Two panels side by side, with a third one that hangs nowhere yet. -/
def besideLoose : Tree :=
  new.edits [
    .insertPanel .empty,
    .splitPanel ⟨1⟩ ⟨2⟩ .row false,
    .computeLayout ⟨0, 0, 800, 600⟩,
    .insertPanel (.single ⟨⟨1⟩, "notes", ⟨⟨1⟩, "notes"⟩⟩)]

/-- The third panel is put above the second one and removed again. -/
theorem besideLoose_removePanel_splitPanel :
    ∃ s u v, besideLoose.splitPanel ⟨2⟩ ⟨4⟩ .column true = (.ok s, u) ∧
      u.split? s = some (.pair .column ⟨4⟩ ⟨2⟩) ∧ u.removePanel ⟨4⟩ = (.ok true, v) ∧
      v.root = ⟨3⟩ ∧ v.parent? ⟨2⟩ = some ⟨3⟩ ∧
      v.relayout.rect? ⟨2⟩ = besideLoose.rect? ⟨2⟩ := by
  have hbears : (besideLoose.dropNode ⟨4⟩).Bears
      (.split ⟨3⟩ .row 0.5 (.panel ⟨1⟩ .empty) (.panel ⟨2⟩ .empty)) := by
    have hkeys : ∀ id ∈ (besideLoose.dropNode ⟨4⟩).nodes.keys, id ∈ [(⟨3⟩ : NodeId), ⟨1⟩, ⟨2⟩] := by
      decide +kernel
    exact
      { root := rfl
        hangs := ⟨rfl, rfl, rfl⟩
        nodup := by decide
        all := fun hid => hkeys _ (Table.mem_keys_iff.2 hid) }
  have hfresh : ∀ id ∈ besideLoose.nodes.keys, id.number < besideLoose.nextNode := by decide +kernel
  have hawaits : besideLoose.Awaits ⟨4⟩ (.single ⟨⟨1⟩, "notes", ⟨⟨1⟩, "notes"⟩⟩) :=
    { linked := hbears.linked
      loose := ⟨by decide +kernel, by decide +kernel⟩
      fresh := fun hid => hfresh _ (Table.mem_keys_iff.2 hid) }
  have htarget : (besideLoose.dropNode ⟨4⟩).panel? ⟨2⟩ = some .empty := by decide +kernel
  have hsplit : besideLoose.split? ⟨3⟩ = some (.pair .row ⟨1⟩ ⟨2⟩) := by decide +kernel
  have hothers : ∀ id ∈ besideLoose.nodes.keys, id ≠ ⟨3⟩ → besideLoose.split? id = none := by
    decide +kernel
  have harranged : besideLoose.Arranged besideLoose.viewport := by
    refine
      { root := by decide +kernel
        split := ?_ }
    intro id s hs
    obtain ⟨q, hlink⟩ := split?_eq_some_iff.1 hs
    have hkey : id ∈ besideLoose.nodes.keys := Table.mem_keys_iff.2 (contains_of_link? hlink)
    obtain rfl : id = ⟨3⟩ := by
      by_contra hid
      cases (hothers id hkey hid).symm.trans hs
    obtain rfl := Option.some.inj (hsplit.symm.trans hs)
    exact ⟨⟨1⟩, ⟨2⟩, ⟨0, 0, 800, 600⟩, rfl, by decide +kernel, by decide +kernel, by decide +kernel⟩
  obtain ⟨s, u, v, hu, -, hsplit', -, hv, hroot, hlinks, hareas⟩ :=
    Awaits.removePanel_splitPanel hawaits htarget .column true
  refine ⟨s, u, v, hu, hsplit', hv, hroot.trans (by decide +kernel), ?_, ?_⟩
  · rw [parent?_eq, hlinks, ← parent?_eq]
    decide +kernel
  · rw [hareas harranged]
    decide +kernel

end Undoing

end Tree

end Docking
