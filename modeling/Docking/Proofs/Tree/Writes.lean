import Mathlib.Logic.Relation
import Docking.Proofs.Tree.Refusals

/-!
# Names of nodes are given once

Whatever an edit does to a tree, refused or not, it does by small writes: to a panel, to a split, to
a parent link, to the root, or to the set of nodes. A write adds a node under one name only, which
is the next one, and counts on; no write changes a panel into a split. So a name below the counter
stands for what it stood for before, or for nothing. A node that has been taken out never comes
back, and whoever has kept its name finds no other node under it.

## Main definitions

* `Tree.Write`, `Tree.Written`: one write, and a row of them.
* `Tree.Precedes`: no name that was given out before stands for anything new.

## Main results

* `attempt_written`, `edits_written`: edits are rows of writes, also where they are refused.
* `Written.precedes`, `edits_precedes`: no name is given a second time.
-/

namespace Docking

namespace Tree

/-! ## Rows of writes -/

/-- A small change of a tree. -/
inductive Write (t : Tree) : Tree → Prop where
  | panel (id : NodeId) (p : Panel) : Write t (t.setPanel id p)
  | split (id : NodeId) (s : Split) : Write t (t.setSplit id s)
  | parent (id : NodeId) (q : Option NodeId) : Write t (t.setParent id q)
  | root (id : NodeId) : Write t { t with root := id }
  | drop (id : NodeId) : Write t (t.dropNode id)
  | add (node : Node) : Write t (t.addNode node).2
  | areas (viewport : Rect) : Write t (t.computeLayout viewport)

/-- One tree becomes another one by writes. -/
def Written (t u : Tree) : Prop := Relation.ReflTransGen Write t u

section Writes

variable {t u v : Tree} {q : Option NodeId} {id old new : NodeId}

theorem Written.refl (t : Tree) : t.Written t := Relation.ReflTransGen.refl

theorem Written.trans (h : t.Written u) (k : u.Written v) : t.Written v :=
  Relation.ReflTransGen.trans h k

/-- One more write. -/
theorem Written.write (h : t.Written u) (k : u.Write v) : t.Written v :=
  Relation.ReflTransGen.tail h k

theorem Write.written (h : t.Write u) : t.Written u := Relation.ReflTransGen.single h

theorem redirect_written (h : t.redirect q old new = .ok u) : t.Written u := by
  rcases redirect_cases h with rfl | ⟨p, s, rfl⟩
  · exact (Write.root new).written
  · exact (Write.split p s).written

theorem replaceNode_written (h : t.replaceNode old new = .ok u) : t.Written u := by
  unfold replaceNode at h
  split at h
  case isFalse => cases h
  split at h
  · cases h
  · split at h
    · cases h
    · next hredirect =>
      cases h
      exact ((redirect_written hredirect).write (.parent ..)).write (.parent ..)

theorem collapse_written (h : t.collapse old new = .ok u) : t.Written u := by
  unfold collapse at h
  split at h
  · cases h
  · next hreplace =>
    cases h
    exact (replaceNode_written hreplace).write (.drop old)

theorem splitPanel_written (t : Tree) (target new : NodeId) (o : Orientation) (first : Bool) :
    t.Written (t.splitPanel target new o first).2 := by
  unfold splitPanel
  split
  · exact .refl t
  · exact .refl t
  · have hadded := fun node => (Write.add (t := t) node).written
    dsimp only
    split
    · exact hadded _
    · next hreplace =>
      have hreplaced := (hadded _).trans (replaceNode_written hreplace)
      exact ((hreplaced.write (.parent ..)).write (.parent ..)).write (.areas _)

theorem removePanel_written (t : Tree) (id : NodeId) : t.Written (t.removePanel id).2 := by
  unfold removePanel
  split
  · exact .refl t
  · split
    · exact .refl t
    · split
      · exact .refl t
      · split
        · exact .refl t
        · split
          · exact .refl t
          · split
            · exact .refl t
            · have hcut := fun p s => (Write.split (t := t) p s).written.write (.drop id)
              dsimp only
              split
              · exact hcut _ _
              · split
                · exact hcut _ _
                · next hcollapse => exact (hcut _ _).trans (collapse_written hcollapse)

theorem pruneRounds_written (rounds : Nat) (t : Tree) : t.Written (pruneRounds rounds t).2 := by
  induction rounds generalizing t with
  | zero => exact .refl t
  | succ rounds ih =>
      rw [pruneRounds]
      split
      · exact .refl t
      · next id _ =>
        have hremoved := removePanel_written t id
        split
        · next u hu =>
          rw [hu] at hremoved
          exact hremoved.trans (ih u)
        · next hu =>
          rw [hu] at hremoved
          exact hremoved

/-- An edit is a row of writes. One that is refused has been stopped on the way. -/
theorem attempt_written (t : Tree) (e : Edit) : t.Written (t.attempt e).2 := by
  cases e with
  | setPanel id p => exact (Write.panel id p).written
  | insertPanel p => exact (Write.add _).written
  | takeDetached id =>
      show t.Written ((t.takeDetached id).elim t Prod.snd)
      unfold takeDetached
      split
      · exact .refl t
      · split
        · exact .refl t
        · exact (Write.drop id).written
  | replaceNode old new =>
      unfold attempt
      dsimp only
      split
      · exact .refl t
      · next hu => exact replaceNode_written hu
  | splitPanel target new o first => exact splitPanel_written t target new o first
  | removePanel id => exact removePanel_written t id
  | prune =>
      show t.Written t.prune.2
      unfold prune
      dsimp only
      split
      · exact (pruneRounds_written _ t).write (.areas _)
      · exact pruneRounds_written _ t
  | computeLayout area => exact (Write.areas area).written
  | relayout => exact (Write.areas _).written

theorem edits_written (t : Tree) (es : List Edit) : t.Written (t.edits es) := by
  induction es generalizing t with
  | nil => exact .refl t
  | cons e es ih => exact (attempt_written t e).trans (ih _)

end Writes

/-! ## Old names -/

/-- Whether a node is a panel, if there is a node of that name. -/
def isPanel? (t : Tree) (id : NodeId) : Option Bool :=
  (t.link? id).map fun n => n.body.panel?.isSome

/-- The tree `t` has become `u`, and no name that `t` had given out stands for anything new: it
stands for a node of the same kind as in `t`, or for nothing. -/
structure Precedes (t u : Tree) : Prop where
  next : t.nextNode ≤ u.nextNode
  node : ∀ {id : NodeId} {kind : Bool}, id.number < t.nextNode → u.isPanel? id = some kind →
    t.isPanel? id = some kind

section Precedes

variable {t u v : Tree} {id : NodeId}

theorem isPanel?_eq_true_iff : t.isPanel? id = some true ↔ (t.panel? id).isSome := by
  rw [isPanel?, panel?_eq, Option.map_eq_some_iff]
  cases t.link? id <;> simp

theorem Precedes.refl (t : Tree) : t.Precedes t where
  next := Nat.le_refl _
  node _ hnode := hnode

theorem Precedes.trans (h : t.Precedes u) (k : u.Precedes v) : t.Precedes v where
  next := Nat.le_trans h.next k.next
  node hid hnode := h.node hid (k.node (Nat.lt_of_lt_of_le hid h.next) hnode)

/-- Where no node is added, it is enough that the nodes that are left have kept their kinds. -/
private theorem precedes_of_link (hnext : u.nextNode = t.nextNode)
    (hlink : ∀ id n, u.link? id = some n →
      ∃ m, t.link? id = some m ∧ m.body.panel?.isSome = n.body.panel?.isSome) : t.Precedes u where
  next := Nat.le_of_eq hnext.symm
  node _ hnode := by
    obtain ⟨n, hn, rfl⟩ := Option.map_eq_some_iff.1 hnode
    obtain ⟨m, hm, hkind⟩ := hlink _ n hn
    exact Option.map_eq_some_iff.2 ⟨m, hm, hkind⟩

/-- The contents of one node are written over by something of the same kind. -/
private theorem precedes_of_map {f : Link → Link} (hnext : u.nextNode = t.nextNode)
    (hlink : ∀ j, u.link? j = if id = j then (t.link? j).map f else t.link? j)
    (hkind : ∀ n, (f n).body.panel?.isSome = n.body.panel?.isSome) : t.Precedes u := by
  refine precedes_of_link hnext fun j n hn => ?_
  rw [hlink] at hn
  split at hn
  · obtain ⟨m, hm, rfl⟩ := Option.map_eq_some_iff.1 hn
    exact ⟨m, hm, (hkind m).symm⟩
  · exact ⟨n, hn, rfl⟩

/-- A write gives no name a second time: the only name that it may give is the next one. -/
theorem Write.precedes (h : t.Write u) : t.Precedes u := by
  cases h with
  | panel id p =>
      refine precedes_of_map rfl (fun j => link?_setPanel t id j p) fun n => ?_
      obtain ⟨q, body⟩ := n
      cases body <;> rfl
  | split id s =>
      refine precedes_of_map rfl (fun j => link?_setSplit t id j s) fun n => ?_
      obtain ⟨q, body⟩ := n
      cases body <;> rfl
  | parent id q => exact precedes_of_map rfl (fun j => link?_setParent t id j q) fun _ => rfl
  | root id => exact precedes_of_link rfl fun _ n hn => ⟨n, hn, rfl⟩
  | drop id =>
      refine precedes_of_link rfl fun j n hn => ?_
      rw [link?_dropNode] at hn
      split at hn
      · cases hn
      · exact ⟨n, hn, rfl⟩
  | add node =>
      refine ⟨Nat.le_succ _, fun {j kind} hid hnode => ?_⟩
      have hold : (⟨t.nextNode⟩ : NodeId) ≠ j := by
        rintro rfl
        exact Nat.lt_irrefl _ hid
      rwa [isPanel?, link?_addNode, if_neg hold] at hnode
  | areas viewport =>
      refine precedes_of_link rfl fun j n hn => ?_
      rw [link?_computeLayout] at hn
      exact ⟨n, hn, rfl⟩

theorem Written.precedes (h : t.Written u) : t.Precedes u := by
  induction h with
  | refl => exact .refl t
  | tail _ hwrite ih => exact ih.trans hwrite.precedes

/-- Whatever edits are made, refused ones among them, no name is given a second time. -/
theorem edits_precedes (t : Tree) (es : List Edit) : t.Precedes (t.edits es) :=
  (edits_written t es).precedes

end Precedes

end Tree

end Docking
