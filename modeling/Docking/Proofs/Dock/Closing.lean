import Docking.Proofs.Dock.Areas
import Docking.Proofs.Dock.Courses
import Docking.Proofs.Layout.Stripping

/-!
# Closing tabs

What several tabs leave behind when they are closed one after another. Splits collapse along the way
in an order of their own, but `Closes` says all that is left in the end by the tabs as a set: the
items without them, and a layout with the same panels to keep as the layout from which they were
stripped.

## Main results

* `closeTab_closes`: what is left when one tab is closed.
* `foldl_closeTab_closes`: what is left when several tabs are closed.
* `foldl_closeTab_perm`: tabs can be closed in any order.
-/

namespace Docking

namespace Dock

open Layout hiding id

/-- The tabs are closed: the dock was `d` with the layout `l` before, and is `e` with `m` now. The
layout is the same if none of the tabs was docked, and without an empty panel below a split
otherwise. -/
structure Closes (d e : Dock) (l m : Layout) (tabs : List TabId) : Prop where
  same : e = { d with tree := e.tree, items := e.items, outbox := e.outbox }
  item : ∀ j, e.item? j = if j ∈ tabs then none else d.item? j
  nextNode : e.tree.nextNode = d.tree.nextNode
  viewport : e.tree.viewport = d.tree.viewport
  kept : m.kept = (tabs.foldl (fun l tab => l.strip tab) l).kept
  still : (∀ tab ∈ tabs, d.panelOf? tab = none) → m = l
  pruned : (∃ tab ∈ tabs, (d.panelOf? tab).isSome) → m.pruned = m

section Closing

variable {d e f : Dock} {l m n : Layout} {tab : TabId} {tabs more : List TabId}

theorem Closes.panelOf? (h : d.Closes e l m tabs) (j : TabId) :
    e.panelOf? j = if j ∈ tabs then none else d.panelOf? j := by
  rw [Dock.panelOf?, h.item]
  split <;> rfl

private theorem kept_foldl_strip (h : m.kept = l.kept) (tabs : List TabId) :
    (tabs.foldl (fun l tab => l.strip tab) m).kept =
      (tabs.foldl (fun l tab => l.strip tab) l).kept := by
  induction tabs generalizing l m with
  | nil => exact h
  | cons tab tabs ih => exact ih (by rw [kept_strip, h, ← kept_strip])

/-- First some tabs are closed and then more. -/
theorem Closes.trans (h : d.Closes e l m tabs) (k : e.Closes f m n more) :
    d.Closes f l n (tabs ++ more) := by
  have hpanel (j : TabId) (hj : d.panelOf? j = none) : e.panelOf? j = none := by
    rw [h.panelOf?, hj, ite_self]
  refine
    { same := ?_
      item := ?_
      nextNode := k.nextNode.trans h.nextNode
      viewport := k.viewport.trans h.viewport
      kept := ?_
      still := ?_
      pruned := ?_ }
  · rw [k.same, h.same]
  · intro j
    rw [k.item, h.item]
    by_cases hj : j ∈ more <;> simp [hj]
  · rw [k.kept, List.foldl_append]
    exact kept_foldl_strip h.kept more
  · intro hnone
    have hm : m = l := h.still fun j hj => hnone j (List.mem_append_left _ hj)
    rw [← hm]
    exact k.still fun j hj => hpanel j (hnone j (List.mem_append_right _ hj))
  · rintro ⟨j, hj, hdocked⟩
    by_cases hlater : ∃ j ∈ more, (e.panelOf? j).isSome
    · exact k.pruned hlater
    · -- the docked tab was among the first ones
      have hstill : n = m := k.still fun i hi => by
        by_contra hne
        exact hlater ⟨i, hi, Option.isSome_iff_ne_none.2 hne⟩
      rw [hstill]
      refine h.pruned ⟨j, ?_, hdocked⟩
      by_contra hnot
      refine hlater ⟨j, (List.mem_append.1 hj).resolve_left hnot, ?_⟩
      rwa [h.panelOf?, if_neg hnot]

theorem closes_nil (d : Dock) (l : Layout) : d.Closes d l l [] where
  same := rfl
  item := fun j => by simp
  nextNode := rfl
  viewport := rfl
  kept := rfl
  still := fun _ => rfl
  pruned := by simp

/-- What is left when one tab is closed. -/
theorem closeTab_closes (h : d.Sound l) (tab : TabId) :
    ∃ m, (d.closeTab tab).Sound m ∧ d.Closes (d.closeTab tab) l m [tab] := by
  have hviewport := (closeTab_parts d tab).areaStep.viewport
  have hfollows := closeTab_follows h tab
  cases hpanel : d.panelOf? tab with
  | some panel =>
      obtain ⟨p, entry, u, hclose, hp, hentry, hid, hnext, hm⟩ := closeTab_eq h hpanel
      have htab : tab ∈ p.tabIds := List.mem_map.2 ⟨entry, hentry, hid⟩
      rw [hclose] at hviewport hfollows ⊢
      refine ⟨l.vacate panel (p.without tab), hfollows.sound hm, ?_⟩
      exact
        { same := rfl
          item := fun j => by simp [item?, Table.get?_erase, eq_comm]
          nextNode := hnext
          viewport := hviewport
          kept := kept_vacate h.tidy h.nodup hp htab
          still := by simp [hpanel]
          pruned := fun _ => pruned_pruned _ }
  | none =>
      have hstrip : l.strip tab = l := h.tidy.strip_of_notMem (h.notMem_tabIds hpanel)
      cases hitem : d.item? tab with
      | none =>
          have hclose : d.closeTab tab = d := by rw [closeTab, hitem]
          rw [hclose]
          exact ⟨l, h,
            { same := rfl
              item := fun j => by
                split
                · next hj => rw [List.mem_singleton.1 hj, hitem]
                · rfl
              nextNode := rfl
              viewport := rfl
              kept := by rw [List.foldl_cons, hstrip]; rfl
              still := fun _ => rfl
              pruned := by simp [hpanel] }⟩
      | some i =>
          obtain ⟨window, surface, hplacement⟩ :=
            Item.isFloating_iff.1 ((isFloating_iff_panelOf? hitem).2 hpanel)
          have hclose := closeTab_of_floating hitem hplacement
          rw [hclose] at hfollows ⊢
          refine ⟨l, hfollows.sound h.holds.relayout, ?_⟩
          exact
            { same := rfl
              item := fun j => by simp [item?, Table.get?_erase, eq_comm]
              nextNode := rfl
              viewport := rfl
              kept := by rw [List.foldl_cons, hstrip]; rfl
              still := fun _ => rfl
              pruned := by simp [hpanel] }

/-- What is left when several tabs are closed. -/
theorem foldl_closeTab_closes (h : d.Sound l) (tabs : List TabId) :
    ∃ m, (tabs.foldl closeTab d).Sound m ∧ d.Closes (tabs.foldl closeTab d) l m tabs := by
  induction tabs generalizing d l with
  | nil => exact ⟨l, h, closes_nil d l⟩
  | cons tab tabs ih =>
      obtain ⟨m, hm, hfirst⟩ := closeTab_closes h tab
      obtain ⟨n, hn, hrest⟩ := ih hm
      exact ⟨n, hn, hfirst.trans hrest⟩

/-- The layout that is left is determined by the tabs as a set, if it shows a tab. -/
theorem Closes.unique {tabs' : List TabId} (h : d.Closes e l m tabs) (k : d.Closes f l n tabs')
    (hperm : tabs.Perm tabs') {panel : NodeId} (hshows : m.Shows panel tab) : m = n := by
  have hkept : m.kept = n.kept := by rw [h.kept, k.kept, foldl_strip_perm hperm]
  by_cases hdocked : ∃ tab ∈ tabs, (d.panelOf? tab).isSome
  · have hdocked' : ∃ tab ∈ tabs', (d.panelOf? tab).isSome := by
      simpa only [hperm.mem_iff] using hdocked
    obtain ⟨rest, hrest⟩ := Option.isSome_iff_exists.1 (kept_isSome hshows)
    calc m = m.pruned := (h.pruned hdocked).symm
      _ = rest := pruned_of_kept hrest
      _ = n.pruned := (pruned_of_kept (hkept ▸ hrest)).symm
      _ = n := k.pruned hdocked'
  · have hnone : ∀ tab ∈ tabs, d.panelOf? tab = none := fun tab htab => by
      by_contra hne
      exact hdocked ⟨tab, htab, Option.isSome_iff_ne_none.2 hne⟩
    rw [h.still hnone, k.still fun tab htab => hnone tab (hperm.mem_iff.2 htab)]

private theorem Reachable.foldl_closeTab (h : d.Reachable) (tabs : List TabId) :
    (tabs.foldl closeTab d).Reachable := by
  have hrun : d.run (tabs.map .closeTab) = tabs.foldl closeTab d := by
    rw [Dock.run, List.foldl_map]
    rfl
  exact hrun ▸ h.run _

/-- Tabs can be closed in any order: if a tab is docked in the end, every order leads to the same
dock, up to the order of the commands that were queued. -/
theorem foldl_closeTab_perm (hd : d.Reachable) {tabs tabs' : List TabId} (hperm : tabs.Perm tabs')
    (hleft : ∃ tab, ((tabs.foldl closeTab d).panelOf? tab).isSome) :
    { tabs.foldl closeTab d with outbox := [] } = { tabs'.foldl closeTab d with outbox := [] } := by
  obtain ⟨l, hl⟩ := hd.sound
  obtain ⟨m, hm, hcloses⟩ := foldl_closeTab_closes hl tabs
  obtain ⟨n, hn, hcloses'⟩ := foldl_closeTab_closes hl tabs'
  obtain ⟨tab, hdocked⟩ := hleft
  obtain ⟨panel, hpanel⟩ := Option.isSome_iff_exists.1 hdocked
  obtain rfl : m = n := hcloses.unique hcloses' hperm (hm.shown.1 hpanel)
  have htree : (tabs.foldl closeTab d).tree = (tabs'.foldl closeTab d).tree :=
    hm.holds.eq_of_relayout hn.holds (hcloses.nextNode.trans hcloses'.nextNode.symm)
      (hcloses.viewport.trans hcloses'.viewport.symm) (hd.foldl_closeTab tabs).relayout_eq
      (hd.foldl_closeTab tabs').relayout_eq
  have hitems : (tabs.foldl closeTab d).items = (tabs'.foldl closeTab d).items := by
    refine Table.ext_get? fun j => ?_
    show (tabs.foldl closeTab d).item? j = (tabs'.foldl closeTab d).item? j
    rw [hcloses.item, hcloses'.item]
    simp only [hperm.mem_iff]
  rw [hcloses.same, hcloses'.same, htree, hitems]

/-- A dock with four tabs: one alone in its panel, two beside it that share a panel, and one that
floats. -/
def threeDocked : Dock :=
  (new .standard).run [
    .openTab "A" ⟨⟨1⟩, "p"⟩ true,
    .dockNew "B" ⟨⟨2⟩, "p"⟩ (some ⟨⟨1⟩, .right⟩),
    .openTab "C" ⟨⟨3⟩, "p"⟩ true,
    .openTab "D" ⟨⟨4⟩, "p"⟩ true,
    .floatTab ⟨4⟩]

/-- The split collapses at once or at last, and the same tab is left. -/
theorem threeDocked_closed :
    ((([⟨1⟩, ⟨4⟩, ⟨2⟩, ⟨9⟩] : List TabId).foldl closeTab threeDocked).panelOf? ⟨3⟩).isSome ∧
      { ([⟨1⟩, ⟨4⟩, ⟨2⟩, ⟨9⟩] : List TabId).foldl closeTab threeDocked with outbox := [] } =
        { ([⟨9⟩, ⟨2⟩, ⟨4⟩, ⟨1⟩] : List TabId).foldl closeTab threeDocked with outbox := [] } := by
  have hleft : ((([⟨1⟩, ⟨4⟩, ⟨2⟩, ⟨9⟩] : List TabId).foldl closeTab threeDocked).panelOf?
      ⟨3⟩).isSome := by rfl
  exact ⟨hleft, foldl_closeTab_perm ⟨_, _, rfl⟩ (by decide) ⟨_, hleft⟩⟩

end Closing

end Dock

end Docking
