import Docking.Proofs.Layout.Trail
import Docking.Proofs.Tree.Link

/-!
# The layout that a tree holds

`Tree.Hangs` reads an ordinary tree off the table of nodes: its parts are where the links say, and
every parent link leads back. A tree *carries* a layout that hangs on its root in this way; it
*holds* the layout if there are no other nodes.

## Main results

* `hangs_plug`: what hangs on the root is what hangs at a place and what is around it.
* `Holds.panel?_eq_some_iff`, `Holds.contains_iff`: look-ups in a tree are look-ups in its layout.
* `Holds.unique`: a tree holds one layout.
-/

namespace Docking

namespace Tree

open Layout hiding id

/-- The nodes of a layout are in the tree, linked downwards and upwards, below a given parent. -/
def Hangs (t : Tree) : Option NodeId → Layout → Prop
  | parent, .panel id p => t.link? id = some ⟨parent, .panel p⟩
  | parent, .split id o r a b =>
    t.link? id = some ⟨parent, .split ⟨o, r, [a.id, b.id]⟩⟩ ∧
      t.Hangs (some id) a ∧ t.Hangs (some id) b

/-- The nodes of a trail are in the tree and linked, and the way down ends at the node `place`. -/
def Around (t : Tree) : List Crumb → NodeId → Prop
  | [], place => t.root = place
  | c :: cs, place =>
    t.link? c.id = some ⟨above cs, .split ⟨c.orientation, c.ratio, c.children place⟩⟩ ∧
      t.Hangs (some c.id) c.sibling ∧ t.Around cs c.id

/-- The layout hangs on the root. There may be loose nodes besides. -/
structure Carries (t : Tree) (l : Layout) : Prop where
  root : t.root = l.id
  hangs : t.Hangs none l
  nodup : l.ids.Nodup
  fresh : ∀ {id n}, t.link? id = some n → id.number < t.nextNode

/-- The layout hangs on the root, and there is no other node. -/
structure Holds (t : Tree) (l : Layout) : Prop extends t.Carries l where
  all : ∀ {id n}, t.link? id = some n → id ∈ l.ids

/-! ## What hangs somewhere -/

section Hangs

variable {t u : Tree} {q : Option NodeId} {l : Layout}

theorem Hangs.congr (h : t.Hangs q l) (hl : ∀ j ∈ l.ids, u.link? j = t.link? j) : u.Hangs q l := by
  induction l generalizing q with
  | panel id p =>
      rw [Hangs] at h ⊢
      rw [hl id (by simp [ids]), h]
  | split id o r a b iha ihb =>
      rw [Hangs] at h ⊢
      obtain ⟨hid, ha, hb⟩ := h
      refine ⟨?_, iha ha fun j hj => hl j ?_, ihb hb fun j hj => hl j ?_⟩
      · rw [hl id (by simp [ids]), hid]
      · simp [ids, hj]
      · simp [ids, hj]

/-- The topmost node of what hangs somewhere knows its parent. -/
theorem Hangs.link (h : t.Hangs q l) : ∃ body, t.link? l.id = some ⟨q, body⟩ := by
  cases l with
  | panel id p => exact ⟨_, h⟩
  | split id o r a b => exact ⟨_, h.1⟩

/-- If the parent link of the topmost node is changed, the layout hangs there and not here. -/
theorem Hangs.move (h : t.Hangs q l) (hl : l.ids.Nodup) {r : Option NodeId}
    (htop : u.link? l.id = (t.link? l.id).map fun n => ⟨r, n.body⟩)
    (hrest : ∀ j ∈ l.ids, j ≠ l.id → u.link? j = t.link? j) : u.Hangs r l := by
  cases l with
  | panel id p =>
      have htop : u.link? id = (t.link? id).map fun n => ⟨r, n.body⟩ := htop
      rw [Hangs] at h ⊢
      rw [htop, h]
      rfl
  | split id o s a b =>
      have htop : u.link? id = (t.link? id).map fun n => ⟨r, n.body⟩ := htop
      have hne : ∀ j ∈ a.ids ++ b.ids, j ≠ id := by
        intro j hj e
        rw [ids, List.nodup_cons] at hl
        exact hl.1 (e ▸ hj)
      rw [Hangs] at h ⊢
      obtain ⟨hid, ha, hb⟩ := h
      refine ⟨?_, ha.congr fun j hj => ?_, hb.congr fun j hj => ?_⟩
      · rw [htop, hid]
        rfl
      · exact hrest j (by simp [ids, hj]) (hne j (List.mem_append_left _ hj))
      · exact hrest j (by simp [ids, hj]) (hne j (List.mem_append_right _ hj))

theorem Hangs.link_of_mem_panels (h : t.Hangs q l) {id : NodeId} {p : Panel}
    (hp : (id, p) ∈ l.panels) : ∃ r, t.link? id = some ⟨r, .panel p⟩ := by
  induction l generalizing q with
  | panel i r =>
      rw [panels, List.mem_singleton, Prod.mk.injEq] at hp
      rw [hp.1, hp.2]
      exact ⟨q, h⟩
  | split i o r a b iha ihb =>
      rw [panels, List.mem_append] at hp
      rcases hp with hp | hp
      · exact iha h.2.1 hp
      · exact ihb h.2.2 hp

theorem Hangs.link_ne_none (h : t.Hangs q l) {id : NodeId} (hid : id ∈ l.ids) :
    ∃ n, t.link? id = some n := by
  induction l generalizing q with
  | panel i r =>
      rw [ids, List.mem_singleton] at hid
      rw [hid]
      exact ⟨_, h⟩
  | split i o r a b iha ihb =>
      rw [ids, List.mem_cons, List.mem_append] at hid
      rcases hid with hid | hid | hid
      · rw [hid]
        exact ⟨_, h.1⟩
      · exact iha h.2.1 hid
      · exact ihb h.2.2 hid

theorem Hangs.mem_panels (h : t.Hangs q l) {id : NodeId} {r : Option NodeId} {p : Panel}
    (hid : id ∈ l.ids) (hp : t.link? id = some ⟨r, .panel p⟩) : (id, p) ∈ l.panels := by
  induction l generalizing q with
  | panel i s =>
      rw [ids, List.mem_singleton] at hid
      subst hid
      rw [Hangs, hp] at h
      have : p = s := by simpa using congrArg (Option.map Link.body) h
      simp [panels, this]
  | split i o s a b iha ihb =>
      rw [ids, List.mem_cons, List.mem_append] at hid
      rw [panels, List.mem_append]
      rcases hid with hid | hid | hid
      · subst hid
        have := h.1
        rw [hp] at this
        simp at this
      · exact .inl (iha h.2.1 hid)
      · exact .inr (ihb h.2.2 hid)

/-- What hangs at a name in one way hangs there in no other way. -/
theorem Hangs.unique {m : Layout} (hl : t.Hangs q l) (hm : t.Hangs q m) (h : l.id = m.id) :
    l = m := by
  induction l generalizing q m with
  | panel i p =>
      cases m with
      | panel j r =>
          obtain rfl : i = j := h
          rw [Hangs] at hl hm
          have : p = r := by simpa [hl] using hm
          rw [this]
      | split j o r a b =>
          obtain rfl : i = j := h
          rw [Hangs] at hl
          have := hm.1
          simp [hl] at this
  | split i o r a b iha ihb =>
      cases m with
      | panel j p =>
          obtain rfl : i = j := h
          rw [Hangs] at hm
          have := hl.1
          simp [hm] at this
      | split j o' r' a' b' =>
          obtain rfl : i = j := h
          obtain ⟨hl, hla, hlb⟩ := hl
          obtain ⟨hm, hma, hmb⟩ := hm
          have : o = o' ∧ r = r' ∧ a.id = a'.id ∧ b.id = b'.id := by simpa [hl] using hm
          obtain ⟨rfl, rfl, ha, hb⟩ := this
          rw [iha hla hma ha, ihb hlb hmb hb]

end Hangs

/-! ## What is around a place -/

section Around

variable {t u : Tree} {cs : List Crumb} {place : NodeId}

theorem Around.congr (h : t.Around cs place) (hroot : u.root = t.root)
    (hl : ∀ j ∈ trailIds cs, u.link? j = t.link? j) : u.Around cs place := by
  induction cs generalizing place with
  | nil =>
      rw [Around] at h ⊢
      rw [hroot, h]
  | cons c cs ih =>
      rw [Around] at h ⊢
      obtain ⟨hc, hsibling, hrest⟩ := h
      refine ⟨?_, hsibling.congr fun j hj => ?_, ih hrest fun j hj => ?_⟩
      · rw [hl c.id (by simp [trailIds]), hc]
      · exact hl j (mem_trailIds_of_mem (List.mem_cons_self ..) hj)
      · exact hl j (by simp [trailIds, hj])

private theorem hangs_fill {c : Crumb} {q : Option NodeId} {l : Layout} :
    t.Hangs q (c.fill l) ↔
      t.link? c.id = some ⟨q, .split ⟨c.orientation, c.ratio, c.children l.id⟩⟩ ∧
        t.Hangs (some c.id) c.sibling ∧ t.Hangs (some c.id) l := by
  unfold Crumb.fill Crumb.children
  split
  · rw [Hangs]
    exact and_congr_right fun _ => and_comm
  · rw [Hangs]

/-- What hangs on the root is what is around a place and what hangs there. -/
theorem hangs_plug (t : Tree) (cs : List Crumb) (l : Layout) :
    t.root = (plug cs l).id ∧ t.Hangs none (plug cs l) ↔
      t.Around cs l.id ∧ t.Hangs (above cs) l := by
  induction cs generalizing l with
  | nil => exact Iff.rfl
  | cons c cs ih =>
      rw [plug, ih, hangs_fill, Crumb.id_fill, Around, above_cons]
      constructor
      · rintro ⟨haround, hc, hsibling, hl⟩
        exact ⟨⟨hc, hsibling, haround⟩, hl⟩
      · rintro ⟨⟨hc, hsibling, haround⟩, hl⟩
        exact ⟨haround, hc, hsibling, hl⟩

/-- The nodes of a place are not on its trail, and neither occur twice. -/
theorem Carries.nodup_plug {l : Layout} (h : t.Carries (plug cs l)) :
    (trailIds cs).Nodup ∧ l.ids.Nodup ∧ ∀ j ∈ trailIds cs, j ∉ l.ids := by
  have := (ids_plug cs l).nodup_iff.1 h.nodup
  obtain ⟨htrail, hl, hdisjoint⟩ := List.nodup_append.1 this
  exact ⟨htrail, hl, fun j hj hjl => hdisjoint j hj j hjl rfl⟩

end Around

/-! ## Look-ups -/

section Holds

variable {t : Tree} {l : Layout}

theorem Carries.panel?_of_mem (h : t.Carries l) {id : NodeId} {p : Panel}
    (hp : (id, p) ∈ l.panels) : t.panel? id = some p :=
  panel?_eq_some_iff.2 (h.hangs.link_of_mem_panels hp)

theorem Holds.panel?_eq_some_iff (h : t.Holds l) {id : NodeId} {p : Panel} :
    t.panel? id = some p ↔ (id, p) ∈ l.panels := by
  constructor
  · intro hp
    obtain ⟨q, hq⟩ := Tree.panel?_eq_some_iff.1 hp
    exact h.hangs.mem_panels (h.all hq) hq
  · exact h.panel?_of_mem

theorem Holds.contains_iff (h : t.Holds l) {id : NodeId} : t.contains id ↔ id ∈ l.ids := by
  rw [contains_eq, Option.isSome_iff_exists]
  constructor
  · rintro ⟨n, hn⟩
    exact h.all hn
  · exact h.hangs.link_ne_none

theorem Holds.link?_eq_none (h : t.Holds l) {id : NodeId} (hid : id ∉ l.ids) :
    t.link? id = none := by
  by_contra hne
  obtain ⟨n, hn⟩ := Option.ne_none_iff_exists'.1 hne
  exact hid (h.all hn)

/-- The names of the nodes are below the counter. -/
theorem Carries.lt_nextNode (h : t.Carries l) {id : NodeId} (hid : id ∈ l.ids) :
    id.number < t.nextNode := by
  obtain ⟨n, hn⟩ := h.hangs.link_ne_none hid
  exact h.fresh hn

/-- A tree holds one layout. -/
theorem Holds.unique {m : Layout} (hl : t.Holds l) (hm : t.Holds m) : l = m :=
  hl.hangs.unique hm.hangs (hl.root.symm.trans hm.root)

theorem Hangs.length_ids_le {q : Option NodeId} (h : t.Hangs q l) (hl : l.ids.Nodup) :
    l.ids.length ≤ t.size := by
  have hsubset : l.ids ⊆ t.nodes.keys := fun j hj => by
    obtain ⟨n, hn⟩ := h.link_ne_none hj
    obtain ⟨node, hnode, -⟩ := exists_node hn
    rw [Table.mem_keys_iff, hnode]
    rfl
  have := hl.length_le_of_subset hsubset
  rwa [Table.keys, List.length_map] at this

theorem Carries.length_ids_le (h : t.Carries l) : l.ids.length ≤ t.size :=
  h.hangs.length_ids_le h.nodup

theorem Carries.height_le (h : t.Carries l) : l.height ≤ t.size :=
  Nat.le_trans l.height_le_length_ids h.length_ids_le

theorem holds_new : Tree.new.Holds (.panel ⟨1⟩ .empty) := by
  have hlink : ∀ j, Tree.new.link? j = if (⟨1⟩ : NodeId) = j then some ⟨none, .panel .empty⟩
      else none := by
    intro j
    rw [link?, new, Table.get?_insert]
    split <;> rfl
  have hone : ∀ {j n}, Tree.new.link? j = some n → j = ⟨1⟩ := by
    intro j n h
    rw [hlink] at h
    split at h
    · next hj => exact hj.symm
    · cases h
  refine
    { root := rfl
      hangs := by rw [Hangs, hlink, if_pos rfl]
      nodup := by simp [ids]
      fresh := ?_
      all := ?_ }
  · intro j n h
    rw [hone h]
    decide
  · intro j n h
    rw [hone h]
    simp [ids]

theorem Holds.computeLayout (h : t.Holds l) (viewport : Rect) :
    (t.computeLayout viewport).Holds l where
  root := h.root
  hangs := h.hangs.congr fun j _ => link?_computeLayout t viewport j
  nodup := h.nodup
  fresh := fun hn => h.fresh ((link?_computeLayout t viewport _).symm.trans hn)
  all := fun hn => h.all ((link?_computeLayout t viewport _).symm.trans hn)

theorem Holds.relayout (h : t.Holds l) : t.relayout.Holds l :=
  h.computeLayout t.viewport

end Holds

end Tree

end Docking
