import Docking.Proofs.Tree.Holds

/-!
# The areas of a tree that holds a layout

A layout pass gives the whole area to the topmost node and every split divides its own area between
its children. `Layout.areaOf` says which area this leads to at each node, and a pass writes exactly
these. So a pass after a pass changes nothing, and whether a tree is in the state in which a pass
leaves it can be seen split by split: that is `Tree.Arranged`.

## Main results

* `Hangs.get?_arrange`: a layout pass writes the areas of the layout and nothing else.
* `Holds.relayout_eq_iff`: a pass changes nothing exactly if every split divides its area.
* `Holds.eq_of_relayout`: a tree on which a pass changes nothing is determined by its layout.
-/

namespace Docking

namespace Layout

/-- The area that a node gets when an area is divided among all nodes of a layout. -/
def areaOf : Layout → Rect → NodeId → Option Rect
  | panel id _, area, j => if id = j then some area else none
  | split id o r a b, area, j =>
    let areas := (Split.mk o r [a.id, b.id]).childRects area
    if id = j then some area else (a.areaOf areas.1 j).or (b.areaOf areas.2 j)

theorem areaOf_id (l : Layout) (area : Rect) : l.areaOf area l.id = some area := by
  cases l <;> simp [areaOf]

theorem areaOf_isSome {l : Layout} {area : Rect} {j : NodeId} :
    (l.areaOf area j).isSome ↔ j ∈ l.ids := by
  induction l generalizing area with
  | panel id p =>
      rw [areaOf, ids, List.mem_singleton]
      split
      · next h => simp [h]
      · next h => simp [Ne.symm h]
  | split id o r a b iha ihb =>
      rw [areaOf, ids, List.mem_cons, List.mem_append]
      split
      · next h => simp [h]
      · next h => rw [Option.isSome_or, Bool.or_eq_true, iha, ihb, or_iff_right (Ne.symm h)]

theorem areaOf_of_notMem {l : Layout} {j : NodeId} (h : j ∉ l.ids) (area : Rect) :
    l.areaOf area j = none :=
  Option.not_isSome_iff_eq_none.1 (mt areaOf_isSome.1 h)

section Split

variable {id j : NodeId} {o : Orientation} {r : Float32} {a b : Layout}

theorem nodup_split (h : (split id o r a b).ids.Nodup) :
    (id ∉ a.ids ∧ id ∉ b.ids) ∧ a.ids.Nodup ∧ b.ids.Nodup ∧ ∀ j ∈ a.ids, j ∉ b.ids := by
  rw [ids, List.nodup_cons, List.mem_append, not_or, List.nodup_append] at h
  obtain ⟨hid, ha, hb, hdisjoint⟩ := h
  exact ⟨hid, ha, hb, fun j hja hjb => hdisjoint j hja j hjb rfl⟩

theorem areaOf_first (h : (split id o r a b).ids.Nodup) (area : Rect) (hj : j ∈ a.ids) :
    (split id o r a b).areaOf area j =
      a.areaOf ((Split.mk o r [a.id, b.id]).childRects area).1 j := by
  obtain ⟨hid, -, -, hdisjoint⟩ := nodup_split h
  have hne : id ≠ j := fun e => hid.1 (e ▸ hj)
  simp only [areaOf, if_neg hne, areaOf_of_notMem (hdisjoint j hj), Option.or_none]

theorem areaOf_second (h : (split id o r a b).ids.Nodup) (area : Rect) (hj : j ∈ b.ids) :
    (split id o r a b).areaOf area j =
      b.areaOf ((Split.mk o r [a.id, b.id]).childRects area).2 j := by
  obtain ⟨hid, -, -, hdisjoint⟩ := nodup_split h
  have hne : id ≠ j := fun e => hid.2 (e ▸ hj)
  have ha : j ∉ a.ids := fun ha => hdisjoint j ha hj
  simp only [areaOf, if_neg hne, areaOf_of_notMem ha, Option.none_or]

/-- No node gets two areas, so the one that is written last is the only one. -/
private theorem getD_areaOf_split (h : (split id o r a b).ids.Nodup) (area rect : Rect) :
    (b.areaOf ((Split.mk o r [a.id, b.id]).childRects area).2 j).getD
        ((a.areaOf ((Split.mk o r [a.id, b.id]).childRects area).1 j).getD
          (if id = j then area else rect)) =
      ((split id o r a b).areaOf area j).getD rect := by
  obtain ⟨hid, -, -, hdisjoint⟩ := nodup_split h
  by_cases hb : j ∈ b.ids
  · have ha : j ∉ a.ids := fun ha => hdisjoint j ha hb
    rw [areaOf_second h area hb, areaOf_of_notMem ha, if_neg fun e : id = j => hid.2 (e ▸ hb),
      Option.getD_none]
  · rw [areaOf_of_notMem hb, Option.getD_none]
    by_cases ha : j ∈ a.ids
    · rw [areaOf_first h area ha, if_neg fun e : id = j => hid.1 (e ▸ ha)]
    · simp only [areaOf, areaOf_of_notMem ha, areaOf_of_notMem hb]
      split <;> rfl

end Split

end Layout

namespace Tree

open Layout hiding id

section Areas

variable {t u : Tree} {q : Option NodeId} {l : Layout} {id : NodeId} {area : Rect}

/-! ## A layout pass -/

/-- A layout pass writes the areas of the layout and nothing else. -/
theorem Hangs.get?_arrange (h : t.Hangs q l) (hl : l.ids.Nodup) {depth : Nat}
    (hdepth : l.height ≤ depth) (area : Rect) (j : NodeId) :
    (arrange depth l.id area t.nodes).get? j =
      (t.nodes.get? j).map fun n => { n with rect := (l.areaOf area j).getD n.rect } := by
  induction l generalizing t q depth area with
  | panel id p =>
      obtain ⟨node, hnode, -, hbody⟩ := exists_node h
      obtain ⟨d, rfl⟩ := Nat.exists_eq_add_of_le' hdepth
      simp only [height, id_panel, arrange, hnode, hbody, areaOf, Table.get?_modify]
      split
      · rfl
      · simp
  | split id o r a b iha ihb =>
      obtain ⟨hid, ha, hb⟩ := h
      obtain ⟨node, hnode, -, hbody⟩ := exists_node hid
      obtain ⟨d, rfl⟩ := Nat.exists_eq_add_of_le' (Nat.le_trans (Nat.le_add_left 1 _) hdepth)
      have hdepth : max a.height b.height + 1 ≤ d + 1 := hdepth
      obtain ⟨-, hal, hbl, -⟩ := nodup_split hl
      let areas := (Split.mk o r [a.id, b.id]).childRects area
      -- the pass over each part sees the links that were there at the beginning
      let top : Tree := { t with nodes := t.nodes.modify id fun n => { n with rect := area } }
      let first : Tree := { t with nodes := arrange d a.id areas.1 top.nodes }
      have htop : ∀ k, top.link? k = t.link? k := fun k => map_link_modify t.nodes id k area
      have hfirst : ∀ k, first.link? k = t.link? k := fun k =>
        (map_link_arrange d a.id k areas.1 top.nodes).trans (htop k)
      have hpassa := iha (ha.congr fun k _ => htop k) hal (show a.height ≤ d by omega) areas.1
      have hpassb := ihb (hb.congr fun k _ => hfirst k) hbl (show b.height ≤ d by omega) areas.2
      have harrange : arrange (d + 1) id area t.nodes = arrange d b.id areas.2 first.nodes := by
        simp only [arrange, hnode, hbody]
        rfl
      rw [id_split, harrange, hpassb, hpassa, Table.get?_modify]
      cases t.nodes.get? j with
      | none => simp
      | some n =>
          simp only [Option.map_some, ← getD_areaOf_split hl area n.rect]
          split <;> rfl

theorem Holds.rect?_computeLayout (h : t.Holds l) (area : Rect) {j : NodeId} (hj : j ∈ l.ids) :
    (t.computeLayout area).rect? j = l.areaOf area j := by
  obtain ⟨n, hn⟩ := h.hangs.link_ne_none hj
  obtain ⟨node, hnode, -⟩ := exists_node hn
  obtain ⟨rect, hrect⟩ := Option.isSome_iff_exists.1 (areaOf_isSome.2 hj)
  rw [rect?, Tree.computeLayout, h.root, h.hangs.get?_arrange h.nodup h.height_le, hnode, hrect]
  rfl

/-! ## What determines a tree -/

private theorem Hangs.link?_eq (h : t.Hangs q l) (hu : u.Hangs q l) :
    ∀ j ∈ l.ids, t.link? j = u.link? j := by
  induction l generalizing q with
  | panel id p =>
      intro j hj
      rw [ids, List.mem_singleton] at hj
      rw [Hangs] at h hu
      rw [hj, h, hu]
  | split id o r a b iha ihb =>
      intro j hj
      rw [ids, List.mem_cons, List.mem_append] at hj
      rcases hj with rfl | hj | hj
      · exact h.1.trans hu.1.symm
      · exact iha h.2.1 hu.2.1 j hj
      · exact ihb h.2.2 hu.2.2 j hj

/-- Trees that hold one layout have the same nodes, apart from the areas. -/
theorem Holds.link?_eq (h : t.Holds l) (hu : u.Holds l) (j : NodeId) : t.link? j = u.link? j := by
  by_cases hj : j ∈ l.ids
  · exact h.hangs.link?_eq hu.hangs j hj
  · rw [h.link?_eq_none hj, hu.link?_eq_none hj]

private theorem get?_eq {j : NodeId} (hlink : t.link? j = u.link? j)
    (hrect : t.rect? j = u.rect? j) : t.nodes.get? j = u.nodes.get? j := by
  rw [link?, link?] at hlink
  rw [rect?, rect?] at hrect
  cases ht : t.nodes.get? j with
  | none =>
      rw [ht] at hlink
      exact (Option.map_eq_none_iff.1 hlink.symm).symm
  | some n =>
      rw [ht] at hlink hrect
      obtain ⟨m, hm, hmn⟩ := Option.map_eq_some_iff.1 hlink.symm
      rw [hm, Option.map_some, Option.map_some, Option.some_inj] at hrect
      rw [hm, Option.some_inj]
      cases n
      cases m
      cases hmn
      cases hrect
      rfl

/-- Trees that hold one layout differ in areas and in the counter only. -/
theorem Holds.ext (h : t.Holds l) (hu : u.Holds l) (hnext : t.nextNode = u.nextNode)
    (hviewport : t.viewport = u.viewport) (hrect : ∀ j ∈ l.ids, t.rect? j = u.rect? j) : t = u := by
  have hnodes : t.nodes = u.nodes := by
    refine Table.ext_get? fun j => ?_
    by_cases hj : j ∈ l.ids
    · exact get?_eq (h.hangs.link?_eq hu.hangs j hj) (hrect j hj)
    · have missing {v : Tree} (hv : v.Holds l) : v.nodes.get? j = none :=
        Option.map_eq_none_iff.1 (hv.link?_eq_none hj)
      rw [missing h, missing hu]
  have hroot : t.root = u.root := h.root.trans hu.root.symm
  cases t
  cases u
  cases hnodes
  cases hroot
  cases hnext
  cases hviewport
  rfl

/-- A pass after a pass changes nothing. -/
theorem Holds.relayout_computeLayout (h : t.Holds l) (area : Rect) :
    (t.computeLayout area).relayout = t.computeLayout area := by
  have hpass := h.computeLayout area
  refine hpass.relayout.ext hpass rfl rfl fun j hj => ?_
  rw [Tree.relayout, hpass.rect?_computeLayout _ hj, h.rect?_computeLayout area hj]
  rfl

/-- Where a pass changes nothing, the areas are those of the layout. -/
theorem Holds.rect?_of_relayout (h : t.Holds l) (hsame : t.relayout = t) {j : NodeId}
    (hj : j ∈ l.ids) : t.rect? j = l.areaOf t.viewport j := by
  have hpass := h.rect?_computeLayout t.viewport hj
  rwa [← Tree.relayout, hsame] at hpass

/-- Trees on which a layout pass changes nothing are the same if they hold the same layout. -/
theorem Holds.eq_of_relayout (h : t.Holds l) (hu : u.Holds l) (hnext : t.nextNode = u.nextNode)
    (hviewport : t.viewport = u.viewport) (htsame : t.relayout = t) (husame : u.relayout = u) :
    t = u := by
  refine h.ext hu hnext hviewport fun j hj => ?_
  rw [h.rect?_of_relayout htsame hj, hu.rect?_of_relayout husame hj, hviewport]

/-! ## Every split divides its area -/

/-- The topmost node has the given area, and every split divides its own area between its
children. -/
structure Arranged (t : Tree) (area : Rect) : Prop where
  root : t.rect? t.root = some area
  split : ∀ {id s}, t.split? id = some s → ∃ a b rect, s.children = [a, b] ∧
    t.rect? id = some rect ∧ t.rect? a = some (s.childRects rect).1 ∧
    t.rect? b = some (s.childRects rect).2

/-- If the nodes of a layout have the areas that it says, every split divides its area. -/
private theorem Hangs.childRects (h : t.Hangs q l) (hl : l.ids.Nodup)
    (hrect : ∀ j ∈ l.ids, t.rect? j = l.areaOf area j) (hid : id ∈ l.ids) {s : Split}
    (hs : t.split? id = some s) : ∃ a b rect, s.children = [a, b] ∧ t.rect? id = some rect ∧
      t.rect? a = some (s.childRects rect).1 ∧ t.rect? b = some (s.childRects rect).2 := by
  induction l generalizing q area with
  | panel i p =>
      rw [ids, List.mem_singleton] at hid
      subst hid
      obtain ⟨r, hr⟩ := split?_eq_some_iff.1 hs
      rw [Hangs, hr] at h
      simp at h
  | split i o r a b iha ihb =>
      obtain ⟨hi, ha, hb⟩ := h
      obtain ⟨-, hal, hbl, -⟩ := nodup_split hl
      have hrecta : ∀ j ∈ a.ids, t.rect? j = a.areaOf _ j := fun j hj =>
        (hrect j (by simp [ids, hj])).trans (areaOf_first hl area hj)
      have hrectb : ∀ j ∈ b.ids, t.rect? j = b.areaOf _ j := fun j hj =>
        (hrect j (by simp [ids, hj])).trans (areaOf_second hl area hj)
      rw [ids, List.mem_cons, List.mem_append] at hid
      rcases hid with rfl | hid | hid
      · rw [split?_eq_some_iff.2 ⟨q, hi⟩, Option.some_inj] at hs
        subst hs
        exact ⟨a.id, b.id, area, rfl, (hrect id (by simp [ids])).trans (areaOf_id _ area),
          (hrecta _ a.id_mem_ids).trans (a.areaOf_id _),
          (hrectb _ b.id_mem_ids).trans (b.areaOf_id _)⟩
      · exact iha ha hal hrecta hid
      · exact ihb hb hbl hrectb hid

/-- If every split divides its area, the nodes of a layout have the areas that it says. -/
private theorem Hangs.rect?_of_arranged (h : t.Hangs q l) (ht : t.Arranged t.viewport)
    (hl : l.ids.Nodup) (htop : t.rect? l.id = some area) :
    ∀ j ∈ l.ids, t.rect? j = l.areaOf area j := by
  induction l generalizing q area with
  | panel i p =>
      intro j hj
      rw [ids, List.mem_singleton] at hj
      rw [hj, areaOf, if_pos rfl]
      exact htop
  | split i o r a b iha ihb =>
      obtain ⟨hi, ha, hb⟩ := h
      obtain ⟨-, hal, hbl, -⟩ := nodup_split hl
      obtain ⟨i', j', rect, hchildren, hrect, hfirst, hsecond⟩ :=
        ht.split (split?_eq_some_iff.2 ⟨q, hi⟩)
      obtain ⟨rfl, rfl⟩ : a.id = i' ∧ b.id = j' := by simpa using hchildren
      obtain rfl : area = rect := Option.some.inj (htop.symm.trans hrect)
      intro j hj
      rw [ids, List.mem_cons, List.mem_append] at hj
      rcases hj with rfl | hj | hj
      · exact htop.trans (areaOf_id _ area).symm
      · rw [areaOf_first hl area hj]
        exact iha ha hal hfirst j hj
      · rw [areaOf_second hl area hj]
        exact ihb hb hbl hsecond j hj

/-- A layout pass changes nothing exactly if the topmost node has the whole area and every split
divides its own. -/
theorem Holds.relayout_eq_iff (h : t.Holds l) : t.relayout = t ↔ t.Arranged t.viewport := by
  constructor
  · intro hsame
    refine
      { root := ?_
        split := ?_ }
    · rw [h.root, h.rect?_of_relayout hsame l.id_mem_ids]
      exact l.areaOf_id t.viewport
    · intro id s hs
      obtain ⟨q, hlink⟩ := split?_eq_some_iff.1 hs
      exact h.hangs.childRects h.nodup (fun _ => h.rect?_of_relayout hsame) (h.all hlink) hs
  · intro ht
    have htop : t.rect? l.id = some t.viewport := h.root ▸ ht.root
    refine h.relayout.ext h rfl rfl fun j hj => ?_
    rw [Tree.relayout, h.rect?_computeLayout _ hj, h.hangs.rect?_of_arranged ht h.nodup htop j hj]

/-- A layout pass is no edit. -/
theorem Holds.of_computeLayout (h : (t.computeLayout area).Holds l) : t.Holds l where
  root := h.root
  hangs := h.hangs.congr fun j _ => (link?_computeLayout t area j).symm
  nodup := h.nodup
  fresh := fun hn => h.fresh ((link?_computeLayout t area _).trans hn)
  all := fun hn => h.all ((link?_computeLayout t area _).trans hn)

theorem arranged_new : Tree.new.Arranged .zero :=
  holds_new.relayout_eq_iff.1 rfl

theorem Holds.arranged_computeLayout (h : t.Holds l) (area : Rect) :
    (t.computeLayout area).Arranged area :=
  (h.computeLayout area).relayout_eq_iff.1 (h.relayout_computeLayout area)

/-- Other contents of a panel leave all areas as they are. -/
theorem Arranged.setPanel (h : t.Arranged area) (id : NodeId) (p : Panel) :
    (t.setPanel id p).Arranged area := by
  have hrect : ∀ j, (t.setPanel id p).rect? j = t.rect? j := by
    intro j
    rw [rect?, rect?, Tree.setPanel, Table.get?_modify]
    split
    · rw [Option.map_map]
      congr 1
      funext n
      cases hn : n.body <;> simp [hn]
    · rfl
  have hsplit : ∀ j, (t.setPanel id p).split? j = t.split? j := by
    intro j
    rw [split?_eq, split?_eq, link?_setPanel]
    split
    · cases t.link? j with
      | none => rfl
      | some n => cases hn : n.body <;> simp [hn, NodeBody.setPanel, NodeBody.split?]
    · rfl
  refine
    { root := (hrect _).trans h.root
      split := ?_ }
  intro j s hs
  simp only [hrect]
  exact h.split (hsplit j ▸ hs)

end Areas

/-! ## Edits do not touch the viewport -/

section Viewport

variable {t u : Tree}

theorem viewport_redirect {parent : Option NodeId} {old new : NodeId}
    (h : t.redirect parent old new = .ok u) : u.viewport = t.viewport := by
  unfold redirect at h
  split at h
  · split at h <;> cases h
    rfl
  · split at h
    · cases h
    · split at h
      · cases h
      · split at h <;> cases h
        rfl

theorem viewport_takeDetached {id : NodeId} {n : Node} (h : t.takeDetached id = some (n, u)) :
    u.viewport = t.viewport := by
  unfold takeDetached at h
  split at h
  · cases h
  · split at h <;> cases h
    rfl

theorem viewport_replaceNode {old new : NodeId} (h : t.replaceNode old new = .ok u) :
    u.viewport = t.viewport := by
  unfold replaceNode at h
  split at h
  · split at h
    · cases h
    · split at h
      · cases h
      · next hredirect =>
        cases h
        exact (viewport_redirect hredirect :)
  · cases h

theorem viewport_splitPanel (t : Tree) (target new : NodeId) (o : Orientation) (first : Bool) :
    (t.splitPanel target new o first).2.viewport = t.viewport := by
  unfold splitPanel
  split
  · rfl
  · rfl
  · dsimp only
    split
    · rfl
    · next hreplace => exact (viewport_replaceNode hreplace :)

theorem viewport_collapse {split survivor : NodeId} (h : t.collapse split survivor = .ok u) :
    u.viewport = t.viewport := by
  unfold collapse at h
  split at h
  · cases h
  · next hreplace =>
    cases h
    exact (viewport_replaceNode hreplace :)

theorem viewport_removePanel (t : Tree) (id : NodeId) :
    (t.removePanel id).2.viewport = t.viewport := by
  unfold removePanel
  split
  · rfl
  · split
    · rfl
    · split
      · rfl
      · split
        · rfl
        · split
          · rfl
          · split
            · rfl
            · dsimp only
              split
              · rfl
              · split
                · rfl
                · next hcollapse => exact (viewport_collapse hcollapse :)

theorem viewport_pruneRounds (rounds : Nat) (t : Tree) :
    (pruneRounds rounds t).2.viewport = t.viewport := by
  induction rounds generalizing t with
  | zero => rfl
  | succ rounds ih =>
      rw [pruneRounds]
      split
      · rfl
      · next id _ =>
        have hremoved := viewport_removePanel t id
        split
        · next u hremove =>
          rw [hremove] at hremoved
          exact (ih u).trans hremoved
        · next u _ hremove =>
          rw [hremove] at hremoved
          exact hremoved

theorem viewport_prune (t : Tree) : t.prune.2.viewport = t.viewport := by
  unfold prune
  dsimp only
  split <;> exact viewport_pruneRounds ..

end Viewport
end Tree

end Docking
