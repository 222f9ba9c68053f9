import Docking.Proofs.Tree.Removal

/-!
# Refused edits

An edit that is refused should leave the tree as it was. For the replacement of a node this is so:
it looks at everything first. A panel is split in two steps, and so is a panel removed, and the
second step is the replacement of a node, which can be refused when the first step is done already.
Whether it is refused depends on where the node is that would be replaced. A node is anchored if it
is the root or a child of the split that its parent link names; there are others, for example panels
that were added and never hung anywhere.

So there are two ways for a refused edit to leave something behind: the new split of a panel that is
not anchored stays among the nodes, and a panel is gone whose split could not be closed up. All
other edits that are refused change nothing at all.

## Main definitions

* `Tree.Edit`, `Tree.attempt`, `Tree.edits`: the edits of a tree, one and several.
* `Tree.Anchored`: a node is where its parent link says.
* `Tree.LeavesBehind`: the two ways in which a refused edit changes a tree.

## Main results

* `attempt_numbered`, `edits_numbered`: one edit keeps names below the counter, and so do several.
* `attempt_refused`: a refused edit changes nothing, or it leaves something behind.
* `edits_refused_iff`: the edits that are refused without a change, after any edits.
-/

namespace Docking

namespace Tree

/-- An edit of a tree. The contents of a panel can be changed at will. -/
inductive Edit where
  | setPanel (id : NodeId) (panel : Panel)
  | insertPanel (panel : Panel)
  | takeDetached (id : NodeId)
  | replaceNode (old new : NodeId)
  | splitPanel (target newPanel : NodeId) (orientation : Orientation) (newFirst : Bool)
  | removePanel (id : NodeId)
  | prune
  | computeLayout (area : Rect)
  | relayout

/-- Why an edit was refused. -/
def refusal {α : Type} : Except EditError α → Option EditError
  | .error e => some e
  | .ok _ => none

/-- Does an edit. The first result is why it was refused, if it was. -/
def attempt (t : Tree) : Edit → Option EditError × Tree
  | .setPanel id panel => (none, t.setPanel id panel)
  | .insertPanel panel => (none, (t.insertPanel panel).2)
  | .takeDetached id => (none, (t.takeDetached id).elim t Prod.snd)
  | .replaceNode old new =>
    match t.replaceNode old new with
    | .error e => (some e, t)
    | .ok u => (none, u)
  | .splitPanel target newPanel orientation newFirst =>
    let (outcome, t) := t.splitPanel target newPanel orientation newFirst
    (refusal outcome, t)
  | .removePanel id =>
    let (outcome, t) := t.removePanel id
    (refusal outcome, t)
  | .prune => (none, t.prune.2)
  | .computeLayout area => (none, t.computeLayout area)
  | .relayout => (none, t.relayout)

/-- The tree after several edits, refused or not. -/
def edits (t : Tree) (es : List Edit) : Tree := es.foldl (fun t e => (t.attempt e).2) t

/-! ## Where a node is -/

/-- A node with the parent link `q` is where the link says: it is the root and has no parent, or it
is a child of its parent. -/
def SitsAt (t : Tree) (id : NodeId) : Option NodeId → Prop
  | none => id = t.root
  | some p => ∃ s, t.split? p = some s ∧ id ∈ s.children

/-- A node is where its parent link says. -/
def Anchored (t : Tree) (id : NodeId) : Prop := t.SitsAt id (t.parent? id)

section Anchored

variable {t u : Tree} {q : Option NodeId} {old new : NodeId}

theorem replaceChild_isSome (s : Split) (old new : NodeId) :
    (s.replaceChild old new).isSome ↔ old ∈ s.children := by
  unfold Split.replaceChild Split.contains
  split
  · next h => simpa using h
  · next h => simpa using h

/-- A link that is changed is the root, or one of the children of a split. -/
theorem redirect_cases (h : t.redirect q old new = .ok u) :
    u = { t with root := new } ∨ ∃ p s, u = t.setSplit p s := by
  unfold redirect at h
  cases q with
  | none =>
      simp only at h
      split at h
      · exact .inl (Except.ok.inj h).symm
      · cases h
  | some p =>
      simp only at h
      split at h
      · cases h
      · split at h
        · cases h
        · split at h
          · cases h
          · exact .inr ⟨p, _, (Except.ok.inj h).symm⟩

/-- The link down to a node can be changed exactly if it is where it should be. -/
theorem redirect_refused_iff : (∃ e, t.redirect q old new = .error e) ↔ ¬ t.SitsAt old q := by
  unfold redirect SitsAt
  cases q with
  | none =>
      by_cases hroot : old = t.root
      · simp [hroot]
      · simp [hroot]
  | some p =>
      have hlook : t.split? p = (t.nodes.get? p).bind Node.split? := rfl
      dsimp only
      rw [hlook]
      cases t.nodes.get? p with
      | none => simp
      | some node =>
          simp only [Option.bind_some]
          cases node.split? with
          | none => simp
          | some s =>
              have hchild := replaceChild_isSome s old new
              cases hreplace : s.replaceChild old new with
              | none => simp_all
              | some s' => simp_all

/-- A node can be replaced exactly if it is anchored and the other one is there. -/
theorem replaceNode_refused_iff :
    (∃ e, t.replaceNode old new = .error e) ↔
      ¬ (t.contains new ∧ t.contains old ∧ t.Anchored old) := by
  have hold : t.contains old = (t.nodes.get? old).isSome := rfl
  unfold replaceNode Anchored
  rw [parent?, hold]
  cases t.contains new with
  | false => simp
  | true =>
      cases t.nodes.get? old with
      | none => simp
      | some node =>
          simp only [if_true, Option.bind_some, Option.isSome_some, true_and]
          rw [← @redirect_refused_iff t node.parent old new]
          cases t.redirect node.parent old new with
          | error e => simp
          | ok u => simp

end Anchored

/-! ## Names and the counter -/

/-- The names of nodes, and those in parent links, are below the counter. A parent link may be to a
node that is gone. -/
structure Numbered (t : Tree) : Prop where
  name : ∀ {j n}, t.link? j = some n → j.number < t.nextNode
  parent : ∀ {j n p}, t.link? j = some n → n.parent = some p → p.number < t.nextNode

section Numbered

variable {t u : Tree} {id : NodeId}

theorem numbered_new : new.Numbered := by
  have hlink : ∀ {j n}, new.link? j = some n → j = ⟨1⟩ ∧ n.parent = none := by
    intro j n hn
    rw [link?, new, Table.get?_insert] at hn
    split at hn
    · next h =>
      cases hn
      exact ⟨h.symm, rfl⟩
    · cases hn
  refine ⟨fun hn => ?_, fun hn hp => ?_⟩
  · rw [(hlink hn).1]
    decide
  · rw [(hlink hn).2] at hp
    cases hp

/-- Nodes that keep their names and parent links, and those that are taken out, do not matter. -/
theorem Numbered.of_link (h : t.Numbered) (hnext : u.nextNode = t.nextNode)
    (hlink : ∀ {j n}, u.link? j = some n → ∃ m, t.link? j = some m ∧ n.parent = m.parent) :
    u.Numbered where
  name hn := by
    obtain ⟨m, hm, -⟩ := hlink hn
    exact hnext ▸ h.name hm
  parent hn hp := by
    obtain ⟨m, hm, hparent⟩ := hlink hn
    exact hnext ▸ h.parent hm (hparent ▸ hp)

theorem Numbered.setPanel (h : t.Numbered) (id : NodeId) (p : Panel) :
    (t.setPanel id p).Numbered := by
  refine h.of_link rfl fun {j n} hn => ?_
  rw [link?_setPanel] at hn
  split at hn
  · obtain ⟨m, hm, rfl⟩ := Option.map_eq_some_iff.1 hn
    exact ⟨m, hm, rfl⟩
  · exact ⟨n, hn, rfl⟩

theorem Numbered.setSplit (h : t.Numbered) (id : NodeId) (s : Split) :
    (t.setSplit id s).Numbered := by
  refine h.of_link rfl fun {j n} hn => ?_
  rw [link?_setSplit] at hn
  split at hn
  · obtain ⟨m, hm, rfl⟩ := Option.map_eq_some_iff.1 hn
    exact ⟨m, hm, rfl⟩
  · exact ⟨n, hn, rfl⟩

theorem Numbered.setParent (h : t.Numbered) (id : NodeId) {q : Option NodeId}
    (hq : ∀ p, q = some p → p.number < t.nextNode) : (t.setParent id q).Numbered := by
  have hlink : ∀ {j n}, (t.setParent id q).link? j = some n →
      ∃ m, t.link? j = some m ∧ (n.parent = q ∨ n = m) := by
    intro j n hn
    rw [link?_setParent] at hn
    split at hn
    · obtain ⟨m, hm, rfl⟩ := Option.map_eq_some_iff.1 hn
      exact ⟨m, hm, .inl rfl⟩
    · exact ⟨n, hn, .inr rfl⟩
  refine ⟨fun hn => ?_, fun hn hp => ?_⟩
  · obtain ⟨m, hm, -⟩ := hlink hn
    exact h.name hm
  · obtain ⟨m, hm, hsame | rfl⟩ := hlink hn
    · exact hq _ (hsame ▸ hp)
    · exact h.parent hm hp

theorem Numbered.dropNode (h : t.Numbered) (id : NodeId) : (t.dropNode id).Numbered := by
  refine h.of_link rfl fun {j n} hn => ?_
  rw [link?_dropNode] at hn
  split at hn
  · cases hn
  · exact ⟨n, hn, rfl⟩

theorem Numbered.addNode (h : t.Numbered) {node : Node} (hparent : node.parent = none) :
    (t.addNode node).2.Numbered := by
  have hlink : ∀ {j n}, (t.addNode node).2.link? j = some n →
      j = ⟨t.nextNode⟩ ∧ n.parent = none ∨ t.link? j = some n := by
    intro j n hn
    rw [link?_addNode] at hn
    split at hn
    · next e =>
      cases hn
      exact .inl ⟨e.symm, hparent⟩
    · exact .inr hn
  refine ⟨fun hn => ?_, fun hn hp => ?_⟩
  · rcases hlink hn with ⟨rfl, -⟩ | hm
    · exact Nat.lt_succ_self _
    · exact Nat.lt_succ_of_lt (h.name hm)
  · rcases hlink hn with ⟨-, hnone⟩ | hm
    · rw [hnone] at hp
      cases hp
    · exact Nat.lt_succ_of_lt (h.parent hm hp)

theorem Numbered.computeLayout (h : t.Numbered) (area : Rect) : (t.computeLayout area).Numbered :=
  h.of_link rfl fun {_ n} hn => ⟨n, by rwa [link?_computeLayout] at hn, rfl⟩

theorem Numbered.redirect (h : t.Numbered) {q : Option NodeId} {old new : NodeId}
    (hu : t.redirect q old new = .ok u) : u.Numbered ∧ u.nextNode = t.nextNode := by
  rcases redirect_cases hu with rfl | ⟨p, s, rfl⟩
  · exact ⟨h.of_link rfl fun {_ n} hn => ⟨n, hn, rfl⟩, rfl⟩
  · exact ⟨h.setSplit p s, rfl⟩

theorem Numbered.replaceNode (h : t.Numbered) {old new : NodeId}
    (hu : t.replaceNode old new = .ok u) : u.Numbered ∧ u.nextNode = t.nextNode := by
  unfold Tree.replaceNode at hu
  split at hu
  case isFalse => cases hu
  split at hu
  · cases hu
  · next node hnode =>
    split at hu
    · cases hu
    · next v hv =>
      cases hu
      obtain ⟨hnumbered, hnext⟩ := h.redirect hv
      have hold : t.link? old = some node.link := by rw [link?, hnode]; rfl
      refine ⟨(hnumbered.setParent new fun p hp => ?_).setParent old (fun p hp => ?_), hnext⟩
      · rw [hnext]
        exact h.parent hold hp
      · cases hp

theorem Numbered.collapse (h : t.Numbered) {split survivor : NodeId}
    (hu : t.collapse split survivor = .ok u) : u.Numbered := by
  unfold Tree.collapse at hu
  split at hu
  · cases hu
  · next hreplace =>
    cases hu
    exact (h.replaceNode hreplace).1.dropNode split

theorem Numbered.splitPanel (h : t.Numbered) (target new : NodeId) (o : Orientation)
    (first : Bool) : (t.splitPanel target new o first).2.Numbered := by
  unfold Tree.splitPanel
  split
  · exact h
  · exact h
  · dsimp only
    split
    · exact h.addNode rfl
    · next u hreplace =>
      obtain ⟨hnumbered, hnext⟩ := (h.addNode rfl).replaceNode hreplace
      have hid : ∀ p, some (⟨t.nextNode⟩ : NodeId) = some p → p.number < u.nextNode := by
        rintro p ⟨⟩
        rw [hnext]
        exact Nat.lt_succ_self _
      exact ((hnumbered.setParent _ hid).setParent _ hid).computeLayout _

theorem Numbered.removePanel (h : t.Numbered) (id : NodeId) : (t.removePanel id).2.Numbered := by
  unfold Tree.removePanel
  split
  · exact h
  · split
    · exact h
    · split
      · exact h
      · split
        · exact h
        · split
          · exact h
          · split
            · exact h
            · dsimp only
              have hcut := fun p s => (h.setSplit p s).dropNode id
              split
              · exact hcut _ _
              · split
                · exact hcut _ _
                · next hcollapse => exact (hcut _ _).collapse hcollapse

theorem Numbered.pruneRounds (rounds : Nat) (h : t.Numbered) :
    (pruneRounds rounds t).2.Numbered := by
  induction rounds generalizing t with
  | zero => exact h
  | succ rounds ih =>
      rw [Tree.pruneRounds]
      split
      · exact h
      · next id _ =>
        have hremoved := h.removePanel id
        split
        · next u hu =>
          rw [hu] at hremoved
          exact ih hremoved
        · next hu =>
          rw [hu] at hremoved
          exact hremoved

/-- One edit keeps names below the counter. -/
theorem attempt_numbered (h : t.Numbered) (e : Edit) : (t.attempt e).2.Numbered := by
  cases e with
  | setPanel id p => exact h.setPanel id p
  | insertPanel p => exact h.addNode rfl
  | takeDetached id =>
      show ((t.takeDetached id).elim t Prod.snd).Numbered
      unfold takeDetached
      split
      · exact h
      · split
        · exact h
        · exact h.dropNode id
  | replaceNode old new =>
      unfold attempt
      dsimp only
      split
      · exact h
      · next hu => exact (h.replaceNode hu).1
  | splitPanel target new o first => exact h.splitPanel target new o first
  | removePanel id => exact h.removePanel id
  | prune =>
      show t.prune.2.Numbered
      unfold prune
      dsimp only
      split
      · exact (h.pruneRounds _).computeLayout _
      · exact h.pruneRounds _
  | computeLayout area => exact h.computeLayout area
  | relayout => exact h.computeLayout _

theorem edits_numbered (es : List Edit) (h : t.Numbered) : (t.edits es).Numbered := by
  induction es generalizing t with
  | nil => exact h
  | cons e es ih => exact ih (attempt_numbered h e)

end Numbered

/-! ## What is left behind -/

/-- The split that takes the place of a panel, with the panel and a new one as its children. -/
def splitFor (target newPanel : NodeId) (orientation : Orientation) (newFirst : Bool) : Node :=
  .ofSplit (.pair orientation (if newFirst then newPanel else target)
    (if newFirst then target else newPanel))

/-- The tree without a panel, whose split has one child less. -/
def cutOff (t : Tree) (id parent : NodeId) (s : Split) : Tree :=
  (t.setSplit parent (s.removeChild id).1).dropNode id

/-- The edit `e` is refused when its first step is done already, and the tree is left as that step
has made it. -/
inductive LeavesBehind (t : Tree) : Edit → Tree → Prop
  /-- Two panels are there, but the one that is to be split is not anchored: the split is among the
  nodes, and nothing leads to it. -/
  | split {target newPanel : NodeId} {p p' : Panel} (orientation : Orientation) (newFirst : Bool)
      (htarget : t.panel? target = some p) (hnew : t.panel? newPanel = some p')
      (hloose : ¬ t.Anchored target) :
      LeavesBehind t (.splitPanel target newPanel orientation newFirst)
        (t.addNode (splitFor target newPanel orientation newFirst)).2
  /-- A panel is not the root, and its split is left with one child, which is not there or is the
  panel itself, or the split is not anchored: the panel is gone, and the split has one child. -/
  | remove {id parent survivor : NodeId} {p : Panel} {s : Split} (hpanel : t.panel? id = some p)
      (hroot : id ≠ t.root) (hparent : t.parent? id = some parent)
      (hsplit : t.split? parent = some s) (hsurvivor : (s.removeChild id).2 = some survivor)
      (hloose : survivor = id ∨ t.contains survivor = false ∨ ¬ t.Anchored parent) :
      LeavesBehind t (.removePanel id) (t.cutOff id parent s)

section LeavesBehind

variable {t u v : Tree} {id : NodeId}

theorem panelFault?_eq_none_iff : t.panelFault? id = none ↔ ∃ p, t.panel? id = some p := by
  have hlook : t.panel? id = (t.nodes.get? id).bind Node.panel? := rfl
  unfold panelFault?
  rw [hlook]
  cases t.nodes.get? id with
  | none => simp
  | some node =>
      cases hpanel : node.panel? with
      | none => simp [hpanel]
      | some p => simp [hpanel]

theorem contains_of_panel? {p : Panel} (h : t.panel? id = some p) : t.contains id = true := by
  obtain ⟨q, hlink⟩ := panel?_eq_some_iff.1 h
  exact contains_of_link? hlink

/-! ### Splitting -/

/-- Where a node is does not depend on a node that is added. -/
theorem anchored_addNode (hn : t.Numbered) (node : Node) (hid : t.contains id = true) :
    (t.addNode node).2.Anchored id ↔ t.Anchored id := by
  rw [contains_eq, Option.isSome_iff_exists] at hid
  obtain ⟨n, hlink⟩ := hid
  have hother : ∀ {j : NodeId}, j.number < t.nextNode →
      (t.addNode node).2.link? j = t.link? j := by
    intro j hj
    rw [link?_addNode, if_neg fun e => absurd hj (by rw [← e]; exact Nat.lt_irrefl _)]
  have hparent : (t.addNode node).2.parent? id = n.parent := by
    rw [parent?_eq, hother (hn.name hlink), hlink]
    rfl
  have hparent' : t.parent? id = n.parent := by
    rw [parent?_eq, hlink]
    rfl
  unfold Anchored
  rw [hparent, hparent']
  cases hq : n.parent with
  | none => rfl
  | some q =>
      have hsplit : (t.addNode node).2.split? q = t.split? q := by
        rw [split?_eq, split?_eq, hother (hn.parent hlink hq)]
      show (∃ s, (t.addNode node).2.split? q = some s ∧ id ∈ s.children) ↔ _
      rw [hsplit]
      rfl

/-- A panel that is not anchored can not be split: its place can not be given to the split. -/
theorem replaceNode_splitFor (hn : t.Numbered) {target : NodeId} {p : Panel}
    (htarget : t.panel? target = some p) (node : Node) :
    (∃ e, (t.addNode node).2.replaceNode target ⟨t.nextNode⟩ = .error e) ↔
      ¬ t.Anchored target := by
  have hold : (t.addNode node).2.contains target = true := by
    have hlink := contains_of_panel? htarget
    rw [contains_eq] at hlink ⊢
    rw [link?_addNode]
    split
    · rfl
    · exact hlink
  have hnew : (t.addNode node).2.contains ⟨t.nextNode⟩ = true := by
    rw [contains_eq, link?_addNode]
    exact congrArg Option.isSome (if_pos rfl)
  rw [replaceNode_refused_iff, anchored_addNode hn node (contains_of_panel? htarget)]
  simp only [hold, hnew, true_and]

theorem splitPanel_of_panels {target newPanel : NodeId} {p p' : Panel}
    (htarget : t.panel? target = some p) (hnew : t.panel? newPanel = some p') (o : Orientation)
    (first : Bool) :
    t.splitPanel target newPanel o first =
      match (t.addNode (splitFor target newPanel o first)).2.replaceNode target ⟨t.nextNode⟩ with
      | .error e => (.error e, (t.addNode (splitFor target newPanel o first)).2)
      | .ok u => (.ok ⟨t.nextNode⟩,
        ((u.setParent (if first then newPanel else target) (some ⟨t.nextNode⟩)).setParent
          (if first then target else newPanel) (some ⟨t.nextNode⟩)).relayout) := by
  have hpair : (if first = true then (newPanel, target) else (target, newPanel)) =
      (if first then newPanel else target, if first then target else newPanel) := by
    cases first <;> rfl
  unfold splitPanel
  rw [panelFault?_eq_none_iff.2 ⟨p, htarget⟩, panelFault?_eq_none_iff.2 ⟨p', hnew⟩]
  simp only [hpair]
  rfl

/-! ### Removing -/

theorem mem_removeChild_iff (s : Split) {id j : NodeId} (h : j ≠ id) :
    j ∈ (s.removeChild id).1.children ↔ j ∈ s.children := by
  unfold Split.removeChild
  split
  · exact List.mem_erase_of_ne h
  · rfl

theorem link?_cutOff (t : Tree) (id parent j : NodeId) (s : Split) :
    (t.cutOff id parent s).link? j =
      if id = j then none
      else if parent = j then
        (t.link? j).map fun n => ⟨n.parent, n.body.setSplit (s.removeChild id).1⟩
      else t.link? j := by
  rw [cutOff, link?_dropNode, link?_setSplit]

/-- Where a split is does not depend on a panel that is taken out of it. -/
theorem anchored_cutOff {parent : NodeId} {p : Panel} {s : Split} (hpanel : t.panel? id = some p)
    (hsplit : t.split? parent = some s) :
    (t.cutOff id parent s).Anchored parent ↔ t.Anchored parent := by
  obtain ⟨q, hid⟩ := panel?_eq_some_iff.1 hpanel
  obtain ⟨r, hparent⟩ := split?_eq_some_iff.1 hsplit
  have hne : id ≠ parent := by
    rintro rfl
    rw [hid] at hparent
    cases hparent
  have hlink : (t.cutOff id parent s).link? parent = some ⟨r, .split (s.removeChild id).1⟩ := by
    rw [link?_cutOff, if_neg hne, if_pos rfl, hparent]
    rfl
  have habove : t.parent? parent = r := by rw [parent?_eq, hparent]; rfl
  have habove' : (t.cutOff id parent s).parent? parent = r := by rw [parent?_eq, hlink]; rfl
  unfold Anchored
  rw [habove, habove']
  cases r with
  | none => rfl
  | some r =>
      show (∃ s', (t.cutOff id parent s).split? r = some s' ∧ parent ∈ s'.children) ↔
        ∃ s', t.split? r = some s' ∧ parent ∈ s'.children
      by_cases hself : r = parent
      · -- a split that is its own parent
        subst hself
        have hcut : (t.cutOff id r s).split? r = some (s.removeChild id).1 :=
          split?_eq_some_iff.2 ⟨_, hlink⟩
        simp only [hcut, hsplit, Option.some.injEq, exists_eq_left']
        exact mem_removeChild_iff s (Ne.symm hne)
      · have hsame : (t.cutOff id parent s).split? r = t.split? r := by
          rw [split?_eq, split?_eq, link?_cutOff, if_neg (Ne.symm hself)]
          split
          · next e =>
            subst e
            rw [hid]
            rfl
          · rfl
        rw [hsame]

/-- When the panel is gone, the split can be closed up exactly if the child that is left is there
and the split is anchored. -/
theorem collapse_cutOff {parent : NodeId} (survivor : NodeId) {p : Panel} {s : Split}
    (hpanel : t.panel? id = some p) (hsplit : t.split? parent = some s) :
    (∃ e, (t.cutOff id parent s).collapse parent survivor = .error e) ↔
      survivor = id ∨ t.contains survivor = false ∨ ¬ t.Anchored parent := by
  have hreplace : (∃ e, (t.cutOff id parent s).collapse parent survivor = .error e) ↔
      ∃ e, (t.cutOff id parent s).replaceNode parent survivor = .error e := by
    unfold collapse
    cases (t.cutOff id parent s).replaceNode parent survivor with
    | error e => simp
    | ok u => simp
  have hkept : ∀ {j}, (t.cutOff id parent s).contains j = true ↔ j ≠ id ∧ t.contains j = true := by
    intro j
    rw [contains_eq, contains_eq, link?_cutOff]
    by_cases hj : id = j
    · simp [hj]
    · by_cases hj' : parent = j
      · simp [hj, hj', Ne.symm hj]
      · simp [hj, hj', Ne.symm hj]
  have hparent : (t.cutOff id parent s).contains parent = true := by
    obtain ⟨q, hid⟩ := panel?_eq_some_iff.1 hpanel
    obtain ⟨r, hlink⟩ := split?_eq_some_iff.1 hsplit
    refine hkept.2 ⟨?_, contains_of_link? hlink⟩
    rintro rfl
    rw [hid] at hlink
    cases hlink
  rw [hreplace, replaceNode_refused_iff, anchored_cutOff hpanel hsplit, hkept]
  simp only [hparent, true_and]
  by_cases hself : survivor = id
  · simp [hself]
  · by_cases hthere : t.contains survivor = true
    · simp [hself, hthere]
    · simp [hself, hthere]

theorem removePanel_of_split {parent : NodeId} {p : Panel} {s : Split}
    (hpanel : t.panel? id = some p) (hroot : id ≠ t.root) (hparent : t.parent? id = some parent)
    (hsplit : t.split? parent = some s) :
    t.removePanel id =
      match (s.removeChild id).2 with
      | none => (.ok true, t.cutOff id parent s)
      | some survivor =>
        match (t.cutOff id parent s).collapse parent survivor with
        | .error e => (.error e, t.cutOff id parent s)
        | .ok u => (.ok true, u) := by
  obtain ⟨node, hnode, hbody⟩ := Option.bind_eq_some_iff.1 hpanel
  obtain ⟨node', hnode', hbody'⟩ := Option.bind_eq_some_iff.1 hsplit
  have habove : node.parent = some parent := by rwa [parent?, hnode] at hparent
  unfold removePanel
  simp only [hnode, hbody, Option.isNone_some, Bool.false_eq_true, if_false, if_neg hroot, habove,
    hnode', hbody']
  rfl

/-- A removal that does not get as far as the split of a panel changes nothing. -/
theorem removePanel_of_not_split
    (h : ¬ ∃ p parent s, t.panel? id = some p ∧ id ≠ t.root ∧ t.parent? id = some parent ∧
      t.split? parent = some s) : (t.removePanel id).2 = t := by
  unfold removePanel
  cases hnode : t.nodes.get? id with
  | none => rfl
  | some node =>
      dsimp only
      cases hbody : node.panel? with
      | none => rfl
      | some p =>
          rw [Option.isNone_some, if_neg Bool.false_ne_true]
          by_cases hroot : id = t.root
          · rw [if_pos hroot]
          rw [if_neg hroot]
          cases habove : node.parent with
          | none => rfl
          | some parent =>
              dsimp only
              cases hnode' : t.nodes.get? parent with
              | none => rfl
              | some node' =>
                  dsimp only
                  cases hbody' : node'.split? with
                  | none => rfl
                  | some s =>
                      refine absurd ⟨p, parent, s, ?_, hroot, ?_, ?_⟩ h
                      · rw [panel?, hnode, Option.bind_some, hbody]
                      · rw [parent?, hnode, Option.bind_some, habove]
                      · rw [split?, hnode', Option.bind_some, hbody']

/-! ### Refusals -/

theorem attempt_replaceNode_refused {old new : NodeId} {e : EditError}
    (h : t.attempt (.replaceNode old new) = (some e, u)) : u = t := by
  simp only [attempt] at h
  split at h
  · cases h
    rfl
  · cases h

theorem attempt_splitPanel_refused (hn : t.Numbered) {target newPanel : NodeId} {o : Orientation}
    {first : Bool} {e : EditError}
    (h : t.attempt (.splitPanel target newPanel o first) = (some e, u)) :
    u = t ∨ t.LeavesBehind (.splitPanel target newPanel o first) u := by
  cases htarget : t.panelFault? target with
  | some fault =>
      simp only [attempt, splitPanel, htarget] at h
      cases h
      exact .inl rfl
  | none =>
      cases hnew : t.panelFault? newPanel with
      | some fault =>
          simp only [attempt, splitPanel, htarget, hnew] at h
          cases h
          exact .inl rfl
      | none =>
          obtain ⟨p, hp⟩ := panelFault?_eq_none_iff.1 htarget
          obtain ⟨p', hp'⟩ := panelFault?_eq_none_iff.1 hnew
          simp only [attempt, splitPanel_of_panels hp hp' o first] at h
          cases hreplace : (t.addNode (splitFor target newPanel o first)).2.replaceNode target
              ⟨t.nextNode⟩ with
          | ok v =>
              simp only [hreplace, refusal] at h
              cases h
          | error e' =>
              have hloose := (replaceNode_splitFor hn hp (splitFor target newPanel o first)).1
                ⟨e', hreplace⟩
              simp only [hreplace] at h
              cases h
              exact .inr (.split o first hp hp' hloose)

theorem attempt_removePanel_refused {e : EditError}
    (h : t.attempt (.removePanel id) = (some e, u)) :
    u = t ∨ t.LeavesBehind (.removePanel id) u := by
  simp only [attempt] at h
  by_cases hcase : ∃ p parent s, t.panel? id = some p ∧ id ≠ t.root ∧
      t.parent? id = some parent ∧ t.split? parent = some s
  · obtain ⟨p, parent, s, hpanel, hroot, hparent, hsplit⟩ := hcase
    rw [removePanel_of_split hpanel hroot hparent hsplit] at h
    split at h
    · cases h
    · next survivor hsurvivor =>
      split at h
      · next hcollapse =>
        cases h
        exact .inr (.remove hpanel hroot hparent hsplit hsurvivor
          ((collapse_cutOff survivor hpanel hsplit).1 ⟨_, hcollapse⟩))
      · cases h
  · exact .inl ((Prod.mk.inj h).2 ▸ removePanel_of_not_split hcase)

/-- A refused edit changes nothing, or it leaves something behind. -/
theorem attempt_refused (hn : t.Numbered) {e : Edit} {err : EditError}
    (h : t.attempt e = (some err, u)) : u = t ∨ t.LeavesBehind e u := by
  cases e with
  | replaceNode old new => exact .inl (attempt_replaceNode_refused h)
  | splitPanel target newPanel o first => exact attempt_splitPanel_refused hn h
  | removePanel id => exact attempt_removePanel_refused h
  | _ => cases h

/-- What leaves something behind is refused. -/
theorem LeavesBehind.refused (hn : t.Numbered) {e : Edit} (h : t.LeavesBehind e v) :
    ∃ err, t.attempt e = (some err, v) := by
  cases h with
  | @split target newPanel p p' o first htarget hnew hloose =>
      obtain ⟨err, hreplace⟩ :=
        (replaceNode_splitFor hn htarget (splitFor target newPanel o first)).2 hloose
      refine ⟨err, ?_⟩
      simp only [attempt, splitPanel_of_panels htarget hnew o first, hreplace, refusal]
  | @remove id parent survivor p s hpanel hroot hparent hsplit hsurvivor hloose =>
      obtain ⟨err, hcollapse⟩ := (collapse_cutOff survivor hpanel hsplit).2 hloose
      refine ⟨err, ?_⟩
      simp only [attempt, removePanel_of_split hpanel hroot hparent hsplit, hsurvivor, hcollapse,
        refusal]

/-- What is left behind shows in the nodes: there is one more, or one less. -/
theorem LeavesBehind.nodes_ne (hn : t.Numbered) {e : Edit} (h : t.LeavesBehind e v) :
    v.nodes ≠ t.nodes := by
  intro hsame
  have hlink : ∀ j, v.link? j = t.link? j := by
    intro j
    rw [link?, hsame, link?]
  cases h with
  | split o first htarget hnew hloose =>
      have hid := hlink ⟨t.nextNode⟩
      rw [link?_addNode, if_pos rfl] at hid
      exact Nat.lt_irrefl _ (hn.name hid.symm)
  | @remove id parent survivor p s hpanel hroot hparent hsplit hsurvivor hloose =>
      obtain ⟨q, hid⟩ := panel?_eq_some_iff.1 hpanel
      have hgone := hlink id
      rw [link?_cutOff, if_pos rfl, hid] at hgone
      cases hgone

/-! ### Panels of a layout -/

/-- A panel of the layout that a tree carries is anchored. -/
theorem Carries.anchored {l : Layout} {p : Panel} (h : t.Carries l) (hp : (id, p) ∈ l.panels) :
    t.Anchored id := by
  obtain ⟨cs, rfl, -⟩ := Layout.exists_trail h.nodup hp
  obtain ⟨haround, hpanel⟩ := (hangs_plug t cs (.panel id p)).1 ⟨h.root, h.hangs⟩
  have hparent : t.parent? id = Layout.above cs := by
    rw [Hangs] at hpanel
    rw [parent?_eq, hpanel]
    rfl
  unfold Anchored
  rw [hparent]
  cases cs with
  | nil => exact haround.symm
  | cons c cs =>
      refine ⟨_, split?_eq_some_iff.2 ⟨_, haround.1⟩, ?_⟩
      show id ∈ c.children id
      unfold Crumb.children
      cases c.first <;> simp

/-- Where a tree carries a layout, edits of its panels leave nothing behind. -/
theorem Carries.not_leavesBehind {l : Layout} {p : Panel} (h : t.Carries l) (hn : t.Numbered)
    (hp : (id, p) ∈ l.panels) {e : Edit}
    (he : (∃ newPanel o first, e = .splitPanel id newPanel o first) ∨ e = .removePanel id) :
    ¬ t.LeavesBehind e v := by
  intro hleaves
  rcases he with ⟨newPanel, o, first, rfl⟩ | rfl
  · cases hleaves with
    | split _ _ _ _ hloose => exact hloose (h.anchored hp)
  · obtain ⟨err, hrefused⟩ := hleaves.refused hn
    have hroot : id ≠ l.id := by
      cases hleaves with
      | remove _ hroot => exact h.root ▸ hroot
    obtain ⟨u, hu, -⟩ := removePanel_carries h hp hroot
    simp only [attempt, hu, refusal] at hrefused
    cases hrefused

end LeavesBehind

/-- After any edits, a refused edit leaves nodes and root as they are exactly if it is none of the
two that leave something behind. Those two are always refused. -/
theorem edits_refused_iff (es : List Edit) (e : Edit) :
    let t := new.edits es
    (∀ err u, t.attempt e = (some err, u) →
      ((u.nodes = t.nodes ∧ u.root = t.root) ↔ ¬ ∃ v, t.LeavesBehind e v)) ∧
    ∀ v, t.LeavesBehind e v → (∃ err, t.attempt e = (some err, v)) ∧ v.nodes ≠ t.nodes := by
  intro t
  have hn : t.Numbered := edits_numbered es numbered_new
  refine ⟨fun err u hrefused => ⟨?_, fun hnothing => ?_⟩, fun v h => ⟨h.refused hn, h.nodes_ne hn⟩⟩
  · rintro ⟨hnodes, -⟩ ⟨v, h⟩
    obtain ⟨err', hrefused'⟩ := h.refused hn
    obtain ⟨-, rfl⟩ := Prod.mk.inj (hrefused.symm.trans hrefused')
    exact h.nodes_ne hn hnodes
  · rcases attempt_refused hn hrefused with rfl | h
    · exact ⟨rfl, rfl⟩
    · exact absurd ⟨u, h⟩ hnothing

/-- Two panels are added that hang nowhere, and one of them is to be split: that is refused, and the
split is there. In another tree a panel has taken the place of the split above it, and the other
panel of that split is to be removed: that is refused, and the panel is gone. -/
theorem looseEdits_leave :
    let t := new.edits [.insertPanel .empty, .insertPanel .empty]
    let split := t.attempt (.splitPanel ⟨2⟩ ⟨3⟩ .row false)
    let u := new.edits [.insertPanel .empty, .splitPanel ⟨1⟩ ⟨2⟩ .row false, .replaceNode ⟨3⟩ ⟨1⟩]
    let removal := u.attempt (.removePanel ⟨2⟩)
    (split.1 = some (.detached ⟨2⟩) ∧ ¬ t.contains ⟨4⟩ ∧ split.2.contains ⟨4⟩ ∧
        ¬ (split.2.nodes = t.nodes ∧ split.2.root = t.root)) ∧
      removal.1 = some (.detached ⟨3⟩) ∧ u.contains ⟨2⟩ ∧ ¬ removal.2.contains ⟨2⟩ ∧
        ¬ (removal.2.nodes = u.nodes ∧ removal.2.root = u.root) := by
  intro t split u removal
  have hsplit : t.LeavesBehind (.splitPanel ⟨2⟩ ⟨3⟩ .row false) split.2 := by
    have htarget : t.panel? ⟨2⟩ = some .empty := by decide +kernel
    have hnew : t.panel? ⟨3⟩ = some .empty := by decide +kernel
    have hparent : t.parent? ⟨2⟩ = none := by decide +kernel
    have hroot : (⟨2⟩ : NodeId) ≠ t.root := by decide +kernel
    refine .split .row false htarget hnew ?_
    unfold Anchored
    rwa [hparent]
  have hremoval : u.LeavesBehind (.removePanel ⟨2⟩) removal.2 := by
    have hpanel : u.panel? ⟨2⟩ = some .empty := by decide +kernel
    have habove : u.parent? ⟨2⟩ = some ⟨3⟩ := by decide +kernel
    have hchildren : u.split? ⟨3⟩ = some (.pair .row ⟨1⟩ ⟨2⟩) := by decide +kernel
    have hsurvivor : ((Split.pair .row ⟨1⟩ ⟨2⟩).removeChild ⟨2⟩).2 = some ⟨1⟩ := by decide +kernel
    have hparent : u.parent? ⟨3⟩ = none := by decide +kernel
    have hroot : (⟨3⟩ : NodeId) ≠ u.root := by decide +kernel
    refine .remove hpanel (by decide +kernel) habove hchildren hsurvivor (.inr (.inr ?_))
    unfold Anchored
    rwa [hparent]
  obtain ⟨hunchanged, -⟩ := edits_refused_iff [.insertPanel .empty, .insertPanel .empty]
    (.splitPanel ⟨2⟩ ⟨3⟩ .row false)
  obtain ⟨hunchanged', -⟩ := edits_refused_iff
    [.insertPanel .empty, .splitPanel ⟨1⟩ ⟨2⟩ .row false, .replaceNode ⟨3⟩ ⟨1⟩] (.removePanel ⟨2⟩)
  have hrefused : split.1 = some (.detached ⟨2⟩) := by decide +kernel
  have hrefused' : removal.1 = some (.detached ⟨3⟩) := by decide +kernel
  refine ⟨⟨hrefused, by decide +kernel, by decide +kernel, fun h => ?_⟩,
    hrefused', by decide +kernel, by decide +kernel, fun h => ?_⟩
  · exact (hunchanged _ _ (Prod.ext hrefused rfl)).1 h ⟨_, hsplit⟩
  · exact (hunchanged' _ _ (Prod.ext hrefused' rfl)).1 h ⟨_, hremoval⟩

end Tree

end Docking
