import Docking.Proofs.Tree.Removal
import Docking.Proofs.Tree.Verdict
import Mathlib.Data.Finset.Range

/-!
# Trees whose links agree

The links of a tree agree if the root is there and has no parent, if every split has two children
that point back at it, and if one gets to every node from the root. Nothing is said about panels,
and nothing about the counter for new names, which is not looked at by edits that add no node. A
tree *bears* a layout if the layout hangs on the root and there is no other node: these are the
trees whose links agree, and the counter of such a tree can be set so that the tree holds the
layout.

## Main definitions

* `Tree.Linked`: the links agree.
* `Tree.Bears`: a layout hangs on the root, and there is no other node.
* `Tree.panelCount`, `Tree.splitCount`: how many nodes are panels, and how many are splits.

## Main results

* `linked_iff_wellFormed`: where links agree, there is only one way down to a node.
* `linked_iff_bears`: where links agree, the nodes form a layout.
* `removePanel_countingFrom`: the removal of a panel does not look at the counter.
* `Bears.panelCount_eq`, `Bears.splitCount_eq`: there is one split less than there are panels.
-/

namespace Docking

namespace Tree

open Layout hiding id

/-- The links of a tree agree. -/
structure Linked (t : Tree) : Prop where
  /-- The root is there and has no parent. -/
  root : t.contains t.root ∧ t.parent? t.root = none
  /-- A split has two children, which point back at it. -/
  children : ∀ {id s}, t.split? id = some s → ∃ a b, s.children = [a, b] ∧ a ≠ b ∧
    t.parent? a = some id ∧ t.parent? b = some id
  /-- One gets to every node from the root. -/
  reached : ∀ {id}, t.contains id → ∃ path, t.Descends t.root path id

/-- The layout hangs on the root, and there is no other node. -/
structure Bears (t : Tree) (l : Layout) : Prop where
  root : t.root = l.id
  hangs : t.Hangs none l
  nodup : l.ids.Nodup
  all : ∀ {id}, t.contains id → id ∈ l.ids

/-- How many nodes are panels. -/
def panelCount (t : Tree) : Nat := t.nodes.keys.countP fun id => (t.panel? id).isSome

/-- How many nodes are splits. -/
def splitCount (t : Tree) : Nat := t.nodes.keys.countP fun id => (t.split? id).isSome

section Linked

variable {t u : Tree} {l : Layout} {id : NodeId}

/-! ## One way down -/

theorem contains_of_parent? {parent : NodeId} (h : t.parent? id = some parent) :
    t.contains id := by
  rw [parent?, Option.bind_eq_some_iff] at h
  obtain ⟨node, hnode, -⟩ := h
  rw [contains, Table.contains, hnode]
  rfl

private theorem climb_succ (steps : Nat) (id : NodeId) :
    t.climb (steps + 1) id = (t.climb steps id).bind t.parent? := by
  induction steps generalizing id with
  | zero =>
      show (t.parent? id).bind (t.climb 0) = t.parent? id
      cases t.parent? id <;> rfl
  | succ steps ih =>
      rw [climb, climb]
      cases t.parent? id with
      | none => rfl
      | some parent => exact ih parent

/-- One gets back up the way that one has come down. -/
private theorem Linked.climb_of_descends (h : t.Linked) {top : NodeId} {path : List NodeId}
    (hpath : t.Descends top path id) : t.climb path.length id = some top := by
  induction hpath with
  | here => rfl
  | @down top child last s path hs hchild hpath ih =>
      obtain ⟨a, b, hab, -, ha, hb⟩ := h.children hs
      have hup : t.parent? child = some top := by
        simp only [hab, List.mem_cons, List.not_mem_nil, or_false] at hchild
        rcases hchild with rfl | rfl
        · exact ha
        · exact hb
      rw [List.length_cons, climb_succ, ih]
      exact hup

/-- Two ways of the same length lead over the same nodes, which are those that one gets to on the
way back up. -/
private theorem Linked.descends_unique (h : t.Linked) {top : NodeId} {path path' : List NodeId}
    (hpath : t.Descends top path id) (hpath' : t.Descends top path' id)
    (hlength : path.length = path'.length) : path = path' := by
  induction hpath generalizing path' with
  | here => exact (List.length_eq_zero_iff.1 hlength.symm).symm
  | down hs hchild hrest ih =>
      cases hpath' with
      | here => cases hlength
      | @down _ child' _ _ rest' hs' hchild' hrest' =>
          have hrestLength := Nat.succ.inj hlength
          have hup := h.climb_of_descends hrest
          rw [hrestLength, h.climb_of_descends hrest', Option.some_inj] at hup
          subst hup
          rw [ih hrest' hrestLength]

/-- Where the links agree there is one way down to every node, and not more. -/
theorem linked_iff_wellFormed : t.Linked ↔ t.WellFormed := by
  constructor
  · intro h
    refine
      { root := h.root
        children := ?_
        reached := ?_ }
    · intro id s hs
      obtain ⟨a, b, hab, hne, ha, hb⟩ := h.children hs
      refine ⟨a, b, hab, hne, ?_⟩
      intro child hchild
      simp only [hab, List.mem_cons, List.not_mem_nil, or_false] at hchild
      rcases hchild with rfl | rfl
      · exact ⟨contains_of_parent? ha, ha⟩
      · exact ⟨contains_of_parent? hb, hb⟩
    · intro id hid
      obtain ⟨path, hpath⟩ := h.reached hid
      refine ⟨path, hpath, fun path' hpath' => h.descends_unique hpath' hpath ?_⟩
      exact climb_unique h.root.2 (h.climb_of_descends hpath') (h.climb_of_descends hpath)
  · intro h
    refine
      { root := h.root
        children := ?_
        reached := fun hid => (h.reached hid).exists }
    intro id s hs
    obtain ⟨a, b, hab, hne, hchild⟩ := h.children hs
    exact ⟨a, b, hab, hne, (hchild a (by simp [hab])).2, (hchild b (by simp [hab])).2⟩

/-! ## The layout of a linked tree -/

/-- Trees whose links agree are those that bear a layout. -/
theorem linked_iff_bears : t.Linked ↔ ∃ l, t.Bears l := by
  rw [linked_iff_wellFormed]
  constructor
  · intro h
    obtain ⟨l, hroot, hl, hnodup, hall⟩ := h.exists_hangs
    exact ⟨l, hroot, hl, hnodup, hall⟩
  · rintro ⟨l, h⟩
    exact h.hangs.wellFormed h.root h.nodup h.all

theorem Bears.linked (h : t.Bears l) : t.Linked := linked_iff_bears.2 ⟨l, h⟩

theorem Holds.bears (h : t.Holds l) : t.Bears l where
  root := h.root
  hangs := h.hangs
  nodup := h.nodup
  all := h.contains_iff.1

/-- A tree with the same links bears the same layout. -/
theorem Bears.congr (h : t.Bears l) (hroot : u.root = t.root)
    (hlink : ∀ j, u.link? j = t.link? j) : u.Bears l where
  root := hroot.trans h.root
  hangs := h.hangs.congr fun j _ => hlink j
  nodup := h.nodup
  all := by
    intro id hid
    rw [contains_eq, hlink, ← contains_eq] at hid
    exact h.all hid

theorem Bears.contains_iff (h : t.Bears l) : t.contains id ↔ id ∈ l.ids := by
  refine ⟨h.all, fun hid => ?_⟩
  obtain ⟨n, hn⟩ := h.hangs.link_ne_none hid
  exact contains_of_link? hn

/-! ## The counter -/

/-- The tree with another number for the next node. -/
def countingFrom (t : Tree) (next : Nat) : Tree := { t with nextNode := next }

/-- A tree that bears a layout holds it, if the counter is far enough on. -/
theorem Bears.exists_holds (h : t.Bears l) : ∃ next, (t.countingFrom next).Holds l := by
  obtain ⟨next, hnext⟩ := Finset.exists_nat_subset_range (t.nodes.keys.map NodeId.number).toFinset
  refine ⟨next,
    { root := h.root
      hangs := h.hangs.congr fun _ _ => rfl
      nodup := h.nodup
      fresh := ?_
      all := fun hn => h.all (contains_of_link? hn) }⟩
  intro id n hn
  have hkey : id ∈ t.nodes.keys := Table.mem_keys_iff.2 (contains_of_link? hn)
  exact Finset.mem_range.1 (hnext (List.mem_toFinset.2 (List.mem_map_of_mem hkey)))

/-- The layout that a tree holds does not depend on the counter. -/
theorem Holds.bears_of_countingFrom {next : Nat} (h : (t.countingFrom next).Holds l) : t.Bears l :=
  h.bears.congr rfl fun _ => rfl

private theorem panelsBelow_countingFrom (t : Tree) (next depth : Nat) (id : NodeId) :
    (t.countingFrom next).panelsBelow depth id = t.panelsBelow depth id := by
  induction depth generalizing id with
  | zero => rfl
  | succ depth ih =>
      have hbelow : (t.countingFrom next).panelsBelow depth = t.panelsBelow depth := funext ih
      rw [panelsBelow, panelsBelow, hbelow]
      rfl

/-- The search for an empty panel does not look at the counter. -/
theorem emptyPanel?_countingFrom (t : Tree) (next : Nat) :
    (t.countingFrom next).emptyPanel? = t.emptyPanel? := by
  have hids : (t.countingFrom next).panelIds = t.panelIds := panelsBelow_countingFrom t next _ _
  rw [emptyPanel?, findPanel?, hids]
  rfl

private theorem redirect_countingFrom (t : Tree) (next : Nat) (q : Option NodeId)
    (old new : NodeId) :
    (t.countingFrom next).redirect q old new =
      (t.redirect q old new).map fun u => u.countingFrom next := by
  unfold redirect countingFrom
  cases q with
  | none =>
      simp only
      split <;> rfl
  | some parent =>
      simp only
      cases t.nodes.get? parent with
      | none => rfl
      | some node =>
          cases hsplit : node.split? with
          | none => simp only [hsplit, Except.map]
          | some s =>
              cases hreplace : s.replaceChild old new with
              | none => simp only [hsplit, hreplace, Except.map]
              | some s' =>
                  simp only [hsplit, hreplace, Except.map]
                  rfl

private theorem replaceNode_countingFrom (t : Tree) (next : Nat) (old new : NodeId) :
    (t.countingFrom next).replaceNode old new =
      (t.replaceNode old new).map fun u => u.countingFrom next := by
  have hcontains : (t.countingFrom next).contains new = t.contains new := rfl
  have hnodes : (t.countingFrom next).nodes = t.nodes := rfl
  unfold replaceNode
  rw [hcontains, hnodes]
  split
  · cases t.nodes.get? old with
    | none => rfl
    | some node =>
        simp only [redirect_countingFrom]
        cases t.redirect node.parent old new <;> rfl
  · rfl

private theorem collapse_countingFrom (t : Tree) (next : Nat) (split survivor : NodeId) :
    (t.countingFrom next).collapse split survivor =
      (t.collapse split survivor).map fun u => u.countingFrom next := by
  unfold collapse
  rw [replaceNode_countingFrom]
  cases t.replaceNode split survivor <;> rfl

/-- The removal of a panel does not look at the counter. -/
theorem removePanel_countingFrom (t : Tree) (next : Nat) (id : NodeId) :
    (t.countingFrom next).removePanel id =
      ((t.removePanel id).1, (t.removePanel id).2.countingFrom next) := by
  have hnodes : (t.countingFrom next).nodes = t.nodes := rfl
  have hroot : (t.countingFrom next).root = t.root := rfl
  have hcut : ∀ parent s, ((t.countingFrom next).setSplit parent s).dropNode id =
      ((t.setSplit parent s).dropNode id).countingFrom next := fun _ _ => rfl
  unfold removePanel
  rw [hnodes, hroot]
  cases t.nodes.get? id with
  | none => rfl
  | some node =>
      simp only
      split
      · rfl
      · split
        · rfl
        · cases node.parent with
          | none => rfl
          | some parent =>
              simp only
              cases t.nodes.get? parent with
              | none => rfl
              | some above =>
                  cases hsplit : above.split? with
                  | none => simp only [hsplit]
                  | some s =>
                      simp only [hsplit, hcut, collapse_countingFrom]
                      split
                      · rfl
                      · next survivor _ =>
                        cases ((t.setSplit parent (s.removeChild id).1).dropNode id).collapse
                          parent survivor <;> rfl

/-! ## How many nodes there are -/

theorem Bears.keys_perm (h : t.Bears l) : t.nodes.keys.Perm l.ids :=
  (List.perm_ext_iff_of_nodup t.nodes.nodup_keys h.nodup).2 fun _ =>
    Table.mem_keys_iff.trans h.contains_iff

/-- A layout has one split less than it has panels. -/
private theorem Hangs.count_ids {q : Option NodeId} (h : t.Hangs q l) :
    l.ids.countP (fun id => (t.panel? id).isSome) = l.panels.length ∧
      l.ids.countP (fun id => (t.split? id).isSome) + 1 = l.panels.length := by
  induction l generalizing q with
  | panel i p =>
      have hpanel : t.panel? i = some p := panel?_eq_some_iff.2 ⟨q, h⟩
      have hsplit : t.split? i = none := by
        rw [split?_eq, show t.link? i = some ⟨q, .panel p⟩ from h]
        rfl
      simp [ids, panels, hpanel, hsplit]
  | split i o r a b iha ihb =>
      obtain ⟨hi, ha, hb⟩ := h
      obtain ⟨hpanelsA, hsplitsA⟩ := iha ha
      obtain ⟨hpanelsB, hsplitsB⟩ := ihb hb
      have hsplit : t.split? i = some ⟨o, r, [a.id, b.id]⟩ := split?_eq_some_iff.2 ⟨q, hi⟩
      have hpanel : t.panel? i = none := by
        rw [panel?_eq, hi]
        rfl
      simp only [ids, panels, List.countP_cons, List.countP_append, List.length_append, hpanel,
        hsplit, Option.isSome_none, Option.isSome_some, Bool.false_eq_true, if_true, if_false]
      omega

theorem Bears.panelCount_eq (h : t.Bears l) : t.panelCount = l.panels.length := by
  rw [panelCount, h.keys_perm.countP_eq]
  exact h.hangs.count_ids.1

theorem Bears.splitCount_eq (h : t.Bears l) : t.splitCount + 1 = l.panels.length := by
  rw [splitCount, h.keys_perm.countP_eq]
  exact h.hangs.count_ids.2

end Linked

end Tree

end Docking
