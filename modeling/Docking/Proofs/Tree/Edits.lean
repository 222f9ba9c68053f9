import Docking.Proofs.Tree.Holds

/-!
# Edits of a tree are edits of its layout

Each structural edit succeeds on a tree that carries a layout and leads to a tree that carries the
edited layout. An edit happens at the end of a trail: `Redirected` says what a change of the link
down the trail keeps, `Replaced` what the replacement of a node keeps.

## Main results

* `setPanel_carries`, `splitPanel_carries`: the layout after an edit, and the nodes that are left
  alone.
* `setPanel_holds`, `splitPanel_holds`: an edit leaves no loose node.
* `Carries.link_beside`, `mem_ids_graft_beside`: the nodes of a new split.
-/

namespace Docking

namespace Tree

open Layout hiding id

theorem exists_panel {t : Tree} {id : NodeId} {q : Option NodeId} {p : Panel}
    (h : t.link? id = some ⟨q, .panel p⟩) :
    ∃ node, t.nodes.get? id = some node ∧ node.parent = q ∧ node.panel? = some p := by
  obtain ⟨node, hnode, hparent, hbody⟩ := exists_node h
  refine ⟨node, hnode, hparent, ?_⟩
  rw [Node.panel?, hbody]

theorem exists_split {t : Tree} {id : NodeId} {q : Option NodeId} {s : Split}
    (h : t.link? id = some ⟨q, .split s⟩) :
    ∃ node, t.nodes.get? id = some node ∧ node.parent = q ∧ node.split? = some s := by
  obtain ⟨node, hnode, hparent, hbody⟩ := exists_node h
  refine ⟨node, hnode, hparent, ?_⟩
  rw [Node.split?, hbody]

/-! ## Contents of a panel -/

/-- Other contents of a panel are other contents of the panel in the layout. -/
theorem setPanel_carries {t : Tree} {l : Layout} (h : t.Carries l) {id : NodeId} {p : Panel}
    (hp : (id, p) ∈ l.panels) (p' : Panel) :
    (t.setPanel id p').Carries (l.graft id fun _ => .panel id p') := by
  obtain ⟨cs, rfl, hid⟩ := exists_trail h.nodup hp
  obtain ⟨haround, hpanel⟩ := (hangs_plug t cs (.panel id p)).1 ⟨h.root, h.hangs⟩
  have hkeep : ∀ j ∈ trailIds cs, (t.setPanel id p').link? j = t.link? j := by
    intro j hj
    rw [link?_setPanel, if_neg fun e : id = j => hid (e ▸ hj)]
  have hnew : (t.setPanel id p').Hangs (above cs) (.panel id p') := by
    rw [Hangs] at hpanel ⊢
    rw [link?_setPanel, if_pos rfl, hpanel]
    rfl
  rw [graft_plug_panel hid]
  obtain ⟨hroot, hhangs⟩ := (hangs_plug (t.setPanel id p') cs (.panel id p')).2
    ⟨haround.congr rfl hkeep, hnew⟩
  refine
    { root := hroot
      hangs := hhangs
      nodup := ?_
      fresh := ?_ }
  · rw [(ids_plug cs _).nodup_iff]
    exact (ids_plug cs (.panel id p)).nodup_iff.1 h.nodup
  · intro j n hn
    rw [link?_setPanel] at hn
    split at hn
    · obtain ⟨m, hm, -⟩ := Option.map_eq_some_iff.1 hn
      exact h.fresh hm
    · exact h.fresh hn

theorem setPanel_holds {t : Tree} {l : Layout} (h : t.Holds l) {id : NodeId} {p : Panel}
    (hp : (id, p) ∈ l.panels) (p' : Panel) :
    (t.setPanel id p').Holds (l.graft id fun _ => .panel id p') := by
  refine { setPanel_carries h.toCarries hp p' with all := ?_ }
  intro j n hn
  have hj : j ∈ l.ids := by
    rw [link?_setPanel] at hn
    split at hn
    · obtain ⟨m, hm, -⟩ := Option.map_eq_some_iff.1 hn
      exact h.all hm
    · exact h.all hn
  obtain ⟨cs, rfl, hid⟩ := exists_trail h.nodup hp
  rw [graft_plug_panel hid]
  rw [mem_ids_plug] at hj ⊢
  exact hj

/-! ## Replacing a node -/

/-- The link at the end of a trail leads to `new`, and nothing else is different. -/
structure Redirected (t u : Tree) (cs : List Crumb) (new : NodeId) : Prop where
  around : u.Around cs new
  frame : ∀ j, above cs ≠ some j → u.link? j = t.link? j
  nextNode : u.nextNode = t.nextNode

private theorem replaceChild_children {c : Crumb} {old : NodeId} (h : old ≠ c.sibling.id)
    (new : NodeId) :
    (Split.mk c.orientation c.ratio (c.children old)).replaceChild old new =
      some ⟨c.orientation, c.ratio, c.children new⟩ := by
  have hbeq : (old == c.sibling.id) = false := by simpa using h
  unfold Split.replaceChild Split.contains Crumb.children
  cases c.first <;> simp [List.replace_cons, hbeq]

theorem redirect_redirected {t : Tree} {cs : List Crumb} {old : NodeId} (h : t.Around cs old)
    (htrail : (trailIds cs).Nodup) (hold : old ∉ trailIds cs) (new : NodeId) :
    ∃ u, t.redirect (above cs) old new = .ok u ∧ t.Redirected u cs new := by
  cases cs with
  | nil =>
      refine ⟨{ t with root := new }, ?_, ?_⟩
      · rw [above_nil, redirect, if_pos h.symm]
      · exact
          { around := rfl
            frame := fun _ _ => rfl
            nextNode := rfl }
  | cons c cs =>
      obtain ⟨hc, hsibling, hrest⟩ := h
      obtain ⟨node, hnode, -, hsplit⟩ := exists_split hc
      rw [trailIds, List.nodup_cons, List.mem_append, not_or] at htrail
      have hne : old ≠ c.sibling.id := by
        intro e
        exact hold (e ▸ mem_trailIds_of_mem (List.mem_cons_self ..) c.sibling.id_mem_ids)
      refine ⟨t.setSplit c.id ⟨c.orientation, c.ratio, c.children new⟩, ?_, ?_⟩
      · simp only [above_cons, redirect, hnode, hsplit, replaceChild_children hne]
      · have hkeep : ∀ j, c.id ≠ j →
            (t.setSplit c.id ⟨c.orientation, c.ratio, c.children new⟩).link? j = t.link? j := by
          intro j hj
          rw [link?_setSplit, if_neg hj]
        refine
          { around := ⟨?_, hsibling.congr fun j hj => ?_, hrest.congr rfl fun j hj => ?_⟩
            frame := fun j hj => hkeep j fun e => hj (congrArg some e)
            nextNode := rfl }
        · rw [link?_setSplit, if_pos rfl, hc]
          rfl
        · exact hkeep j fun e => htrail.1.1 (e ▸ hj)
        · exact hkeep j fun e => htrail.1.2 (e ▸ hj)

/-- The node `new` is where `old` was, `old` hangs nowhere, and nothing else is different but the
link at the end of the trail. -/
structure Replaced (t u : Tree) (cs : List Crumb) (old new : NodeId) (b b' : NodeBody) : Prop where
  around : u.Around cs new
  oldLink : u.link? old = some ⟨none, b⟩
  newLink : u.link? new = some ⟨above cs, b'⟩
  frame : ∀ j, j ≠ old → j ≠ new → above cs ≠ some j → u.link? j = t.link? j
  nextNode : u.nextNode = t.nextNode

theorem replaceNode_replaced {t : Tree} {cs : List Crumb} {old new : NodeId} {q : Option NodeId}
    {b b' : NodeBody} (h : t.Around cs old) (htrail : (trailIds cs).Nodup)
    (hold : old ∉ trailIds cs) (hnew : new ∉ trailIds cs) (hne : old ≠ new)
    (hb : t.link? old = some ⟨above cs, b⟩) (hb' : t.link? new = some ⟨q, b'⟩) :
    ∃ u, t.replaceNode old new = .ok u ∧ t.Replaced u cs old new b b' := by
  obtain ⟨node, hnode, hparent, -⟩ := exists_node hb
  obtain ⟨u, hu, hredirected⟩ := redirect_redirected h htrail hold new
  have habove {j : NodeId} (hj : j ∉ trailIds cs) : above cs ≠ some j :=
    fun e => hj (above_mem_trailIds e)
  have hcontains := contains_of_link? hb'
  have hlink : ∀ j, ((u.setParent new (above cs)).setParent old none).link? j =
      if old = j then some ⟨none, b⟩
      else if new = j then some ⟨above cs, b'⟩
      else u.link? j := by
    intro j
    rw [link?_setParent, link?_setParent]
    split
    · next e =>
      subst e
      rw [if_neg (Ne.symm hne), hredirected.frame old (habove hold), hb]
      rfl
    · split
      · next e =>
        subst e
        rw [hredirected.frame new (habove hnew), hb']
        rfl
      · rfl
  refine ⟨(u.setParent new (above cs)).setParent old none, ?_, ?_⟩
  · simp only [replaceNode, hcontains, hnode, hparent, hu, if_true]
  · refine
      { around := hredirected.around.congr rfl fun j hj => ?_
        oldLink := by rw [hlink, if_pos rfl]
        newLink := by rw [hlink, if_neg hne, if_pos rfl]
        frame := fun j ho hn ha => ?_
        nextNode := hredirected.nextNode }
    · rw [hlink, if_neg fun e : old = j => hold (e ▸ hj), if_neg fun e : new = j => hnew (e ▸ hj)]
    · rw [hlink, if_neg (Ne.symm ho), if_neg (Ne.symm hn), hredirected.frame j ha]

/-! ## Splitting a panel -/

private theorem panelFault?_eq_none {t : Tree} {id : NodeId} {q : Option NodeId} {p : Panel}
    (h : t.link? id = some ⟨q, .panel p⟩) : t.panelFault? id = none := by
  obtain ⟨node, hnode, -, hpanel⟩ := exists_panel h
  rw [panelFault?, hnode]
  simp [hpanel]

/-- The split that has two given panels as children, the added one first if `first`. -/
private def pairOf (o : Orientation) (first : Bool) (new target : NodeId) : Split :=
  .pair o (if first then new else target) (if first then target else new)

/-- The tree in which a split is the parent of both its panels. -/
private def adopt (t : Tree) (id : NodeId) (first : Bool) (new target : NodeId) : Tree :=
  ((t.setParent (if first then new else target) (some id)).setParent
    (if first then target else new) (some id)).relayout

private theorem link?_adopt (t : Tree) (id : NodeId) (first : Bool) {new target : NodeId}
    (hne : target ≠ new) (j : NodeId) :
    (t.adopt id first new target).link? j =
      if j = new ∨ j = target then (t.link? j).map fun n => ⟨some id, n.body⟩
      else t.link? j := by
  rw [adopt, link?_relayout, link?_setParent, link?_setParent]
  by_cases hjn : j = new
  · subst hjn
    cases first <;> simp [hne]
  · by_cases hjt : j = target
    · subst hjt
      cases first <;> simp [Ne.symm hne]
    · cases first <;> simp [hjn, hjt, Ne.symm hjn, Ne.symm hjt]

/-- What an accepted split does, step by step. -/
private theorem splitPanel_eq {t u : Tree} {target new : NodeId} {o : Orientation} {first : Bool}
    (htarget : t.panelFault? target = none) (hnew : t.panelFault? new = none)
    (hu : (t.addNode (.ofSplit (pairOf o first new target))).2.replaceNode target ⟨t.nextNode⟩ =
      .ok u) :
    t.splitPanel target new o first =
      (.ok ⟨t.nextNode⟩, u.adopt ⟨t.nextNode⟩ first new target) := by
  have hpair : (if first = true then (new, target) else (target, new)) =
      (if first then new else target, if first then target else new) := by
    cases first <;> rfl
  let node : Node := .ofSplit (.pair o (if first = true then new else target)
    (if first = true then target else new))
  have hreplace : (t.addNode node).2.replaceNode target (t.addNode node).1 = .ok u := hu
  unfold splitPanel
  rw [htarget, hnew]
  simp only [hpair, hreplace, node]
  rfl

/-- What hangs below a new split. -/
private theorem hangs_beside {u : Tree} {q : Option NodeId} {id new target : NodeId}
    {o : Orientation} {first : Bool} {p p' : Panel}
    (hid : u.link? id = some ⟨q, .split (pairOf o first new target)⟩)
    (hnew : u.link? new = some ⟨some id, .panel p'⟩)
    (htarget : u.link? target = some ⟨some id, .panel p⟩) :
    u.Hangs q (beside id o first (.panel new p') (.panel target p)) := by
  unfold beside
  cases first with
  | true => exact ⟨hid, hnew, htarget⟩
  | false => exact ⟨hid, htarget, hnew⟩

/-- A new split at a place where a panel was: the panel hangs below it beside the new panel. -/
private structure SplitAt (t u : Tree) (cs : List Crumb) (id new target : NodeId)
    (o : Orientation) (first : Bool) (p p' : Panel) : Prop where
  around : u.Around cs id
  hangs : u.Hangs (above cs) (beside id o first (.panel new p') (.panel target p))
  frame : ∀ j, j ≠ id → j ≠ new → j ≠ target → above cs ≠ some j → u.link? j = t.link? j
  nextNode : u.nextNode = t.nextNode + 1

private theorem splitPanel_splitAt {t : Tree} {cs : List Crumb} {target new : NodeId}
    {p p' : Panel} (haround : t.Around cs target) (htrail : (trailIds cs).Nodup)
    (htarget : t.link? target = some ⟨above cs, .panel p⟩)
    (hnew : t.link? new = some ⟨none, .panel p'⟩) (htargetTrail : target ∉ trailIds cs)
    (hnewTrail : new ∉ trailIds cs) (hne : target ≠ new)
    (hfresh : ∀ {j n}, t.link? j = some n → (⟨t.nextNode⟩ : NodeId) ≠ j)
    (hidTrail : ⟨t.nextNode⟩ ∉ trailIds cs) (o : Orientation) (first : Bool) :
    ∃ u, t.splitPanel target new o first = (.ok ⟨t.nextNode⟩, u) ∧
      t.SplitAt u cs ⟨t.nextNode⟩ new target o first p p' := by
  let id : NodeId := ⟨t.nextNode⟩
  let t₁ := (t.addNode (.ofSplit (pairOf o first new target))).2
  have h₁ (j : NodeId) : t₁.link? j =
      if id = j then some ⟨none, .split (pairOf o first new target)⟩ else t.link? j :=
    link?_addNode t (.ofSplit (pairOf o first new target)) j
  have hidTarget : id ≠ target := hfresh htarget
  have hidNew : id ≠ new := hfresh hnew
  have hidTrail : id ∉ trailIds cs := hidTrail
  have haround₁ : t₁.Around cs target := haround.congr rfl fun j hj => by
    rw [h₁, if_neg fun e : id = j => hidTrail (e ▸ hj)]
  have htarget₁ : t₁.link? target = some ⟨above cs, .panel p⟩ := by
    rw [h₁, if_neg hidTarget, htarget]
  have hid₁ : t₁.link? id = some ⟨none, .split (pairOf o first new target)⟩ := by
    rw [h₁, if_pos rfl]
  obtain ⟨t₂, ht₂, hreplaced⟩ := replaceNode_replaced haround₁ htrail htargetTrail hidTrail
    (Ne.symm hidTarget) htarget₁ hid₁
  have hother {j : NodeId} (hn : j ≠ new) (ht : j ≠ target) :
      (t₂.adopt id first new target).link? j = t₂.link? j := by
    rw [link?_adopt t₂ id first hne, if_neg (by simp [hn, ht])]
  have hnew₂ : t₂.link? new = some ⟨none, .panel p'⟩ := by
    rw [hreplaced.frame new (Ne.symm hne) (Ne.symm hidNew)
      (fun e => hnewTrail (above_mem_trailIds e)), h₁, if_neg hidNew, hnew]
  refine ⟨t₂.adopt id first new target,
    splitPanel_eq (panelFault?_eq_none htarget) (panelFault?_eq_none hnew) ht₂, ?_⟩
  refine
    { around := ?_
      hangs := hangs_beside ?_ ?_ ?_
      frame := ?_
      nextNode := ?_ }
  · exact hreplaced.around.congr rfl fun j hj =>
      hother (fun e => hnewTrail (e ▸ hj)) fun e => htargetTrail (e ▸ hj)
  · rw [hother hidNew hidTarget, hreplaced.newLink]
  · rw [link?_adopt t₂ id first hne, if_pos (.inl rfl), hnew₂]
    rfl
  · rw [link?_adopt t₂ id first hne, if_pos (.inr rfl), hreplaced.oldLink]
    rfl
  · intro j hid hn ht ha
    rw [hother hn ht, hreplaced.frame j ht hid ha, h₁, if_neg (Ne.symm hid)]
  · exact hreplaced.nextNode

theorem ids_beside (id new target : NodeId) (o : Orientation) (first : Bool)
    (p p' : Panel) :
    (beside id o first (.panel new p') (.panel target p)).ids.Perm [id, new, target] := by
  unfold beside
  cases first with
  | true => exact List.Perm.refl _
  | false => exact (List.Perm.swap ..).cons _

/-- What a tree says of a panel that hangs beside another one in a new split. -/
theorem Carries.link_beside {t : Tree} {l : Layout} {id new target : NodeId} {o : Orientation}
    {first : Bool} {p p' : Panel}
    (h : t.Carries (l.graft target fun p => beside id o first (.panel new p') (.panel target p)))
    (hl : l.ids.Nodup) (hp : (target, p) ∈ l.panels) :
    (∃ q, t.link? id = some ⟨q, .split
      (.pair o (if first then new else target) (if first then target else new))⟩) ∧
      t.link? new = some ⟨some id, .panel p'⟩ ∧ t.link? target = some ⟨some id, .panel p⟩ := by
  obtain ⟨cs, rfl, htarget⟩ := exists_trail hl hp
  rw [graft_plug_panel htarget] at h
  have hbelow := ((hangs_plug ..).1 ⟨h.root, h.hangs⟩).2
  unfold beside at hbelow
  cases first with
  | true =>
      obtain ⟨hid, hnew, hold⟩ := hbelow
      exact ⟨⟨_, hid⟩, hnew, hold⟩
  | false =>
      obtain ⟨hid, hold, hnew⟩ := hbelow
      exact ⟨⟨_, hid⟩, hnew, hold⟩

/-- A panel beside another one in a new split adds two nodes. -/
theorem mem_ids_graft_beside {l : Layout} (h : l.ids.Nodup) {id new target j : NodeId}
    {p p' : Panel} (hp : (target, p) ∈ l.panels) {o : Orientation} {first : Bool} :
    j ∈ (l.graft target fun p => beside id o first (.panel new p') (.panel target p)).ids ↔
      j = id ∨ j = new ∨ j ∈ l.ids := by
  obtain ⟨cs, rfl, htarget⟩ := exists_trail h hp
  rw [graft_plug_panel htarget, mem_ids_plug, (ids_beside ..).mem_iff, mem_ids_plug]
  simp only [ids, List.mem_cons, List.not_mem_nil, or_false]
  tauto

/-- A place with a new split in it has no node twice. -/
private theorem nodup_plug_beside {cs : List Crumb} {id new target : NodeId}
    (htrail : (trailIds cs).Nodup) (hid : id ∉ trailIds cs) (hnew : new ∉ trailIds cs)
    (htarget : target ∉ trailIds cs) (hidNew : id ≠ new) (hidTarget : id ≠ target)
    (hne : target ≠ new) (o : Orientation) (first : Bool) (p p' : Panel) :
    (plug cs (beside id o first (.panel new p') (.panel target p))).ids.Nodup := by
  have hids := (ids_beside id new target o first p p').append_left (trailIds cs)
  rw [(ids_plug cs _).nodup_iff, hids.nodup_iff, List.nodup_append]
  refine ⟨htrail, by simp [hidNew, hidTarget, Ne.symm hne], ?_⟩
  rintro j hj k hk rfl
  simp only [List.mem_cons, List.not_mem_nil, or_false] at hk
  rcases hk with rfl | rfl | rfl
  · exact hid hj
  · exact hnew hj
  · exact htarget hj

/-- A panel that is split gives its place to a new split, below which it hangs beside the new
panel. -/
theorem splitPanel_carries {t : Tree} {l : Layout} (h : t.Carries l) {target new : NodeId}
    {p p' : Panel} (hp : (target, p) ∈ l.panels) (hnew : t.link? new = some ⟨none, .panel p'⟩)
    (hloose : new ∉ l.ids) (o : Orientation) (first : Bool) :
    ∃ u, t.splitPanel target new o first = (.ok ⟨t.nextNode⟩, u) ∧
      u.Carries (l.graft target fun p =>
        beside ⟨t.nextNode⟩ o first (.panel new p') (.panel target p)) ∧
      (∀ j, j ∉ l.ids → j ≠ new → j ≠ ⟨t.nextNode⟩ → u.link? j = t.link? j) ∧
      u.nextNode = t.nextNode + 1 := by
  obtain ⟨cs, rfl⟩ := exists_plug hp
  obtain ⟨htrail, -, hdisjoint⟩ := h.nodup_plug
  have htarget : target ∉ trailIds cs := fun hj => hdisjoint target hj (by simp [ids])
  have hnewTrail : new ∉ trailIds cs := fun hj => hloose (mem_ids_plug.2 (.inl hj))
  have hne : target ≠ new := fun e => hloose (mem_ids_plug.2 (.inr (by simp [ids, e])))
  obtain ⟨haround, hpanel⟩ := (hangs_plug t cs (.panel target p)).1 ⟨h.root, h.hangs⟩
  have haround : t.Around cs target := haround
  -- the new split gets a name that nothing has
  have hfresh : ∀ {j n}, t.link? j = some n → (⟨t.nextNode⟩ : NodeId) ≠ j := by
    intro j n hn e
    have := h.fresh hn
    rw [← e] at this
    exact Nat.lt_irrefl _ this
  have hidTrail : ⟨t.nextNode⟩ ∉ trailIds cs := by
    intro hj
    exact Nat.lt_irrefl _ (h.lt_nextNode (mem_ids_plug.2 (.inl hj)))
  obtain ⟨u, hu, hsplit⟩ := splitPanel_splitAt haround htrail hpanel hnew htarget hnewTrail hne
    hfresh hidTrail o first
  have hframe : ∀ j, j ∉ (plug cs (.panel target p)).ids → j ≠ new → j ≠ ⟨t.nextNode⟩ →
      u.link? j = t.link? j := by
    intro j hj hjnew hjid
    rw [mem_ids_plug, not_or] at hj
    exact hsplit.frame j hjid hjnew (fun e => hj.2 (by simp [ids, e]))
      fun e => hj.1 (above_mem_trailIds e)
  refine ⟨u, hu, ?_, hframe, hsplit.nextNode⟩
  have htop : (beside ⟨t.nextNode⟩ o first (.panel new p') (.panel target p)).id =
      ⟨t.nextNode⟩ := by
    unfold beside
    split <;> rfl
  obtain ⟨hroot, hhangs⟩ := (hangs_plug u cs _).2 ⟨htop.symm ▸ hsplit.around, hsplit.hangs⟩
  rw [graft_plug_panel htarget]
  refine
    { root := hroot
      hangs := hhangs
      nodup := nodup_plug_beside htrail hidTrail hnewTrail htarget (hfresh hnew) (hfresh hpanel) hne
        o first p p'
      fresh := ?_ }
  intro j n hn
  rw [hsplit.nextNode]
  by_cases hj : j ∈ (plug cs (.panel target p)).ids
  · exact Nat.lt_succ_of_lt (h.lt_nextNode hj)
  · by_cases hjid : j = ⟨t.nextNode⟩
    · rw [hjid]
      exact Nat.lt_succ_self _
    · by_cases hjnew : j = new
      · rw [hjnew]
        exact Nat.lt_succ_of_lt (h.fresh hnew)
      · rw [hframe j hj hjnew hjid] at hn
        exact Nat.lt_succ_of_lt (h.fresh hn)

/-- A new panel hangs nowhere at first. -/
private theorem insertPanel_carries {t : Tree} {l : Layout} (h : t.Holds l) (p' : Panel) :
    (t.insertPanel p').2.Carries l ∧
      (t.insertPanel p').2.link? ⟨t.nextNode⟩ = some ⟨none, .panel p'⟩ ∧
      ⟨t.nextNode⟩ ∉ l.ids := by
  have hlink (j : NodeId) : (t.insertPanel p').2.link? j =
      if ⟨t.nextNode⟩ = j then some ⟨none, .panel p'⟩ else t.link? j :=
    link?_addNode t (.ofPanel p') j
  have hloose : ⟨t.nextNode⟩ ∉ l.ids := fun hj => Nat.lt_irrefl _ (h.lt_nextNode hj)
  refine ⟨{ root := h.root, hangs := ?_, nodup := h.nodup, fresh := ?_ }, ?_, hloose⟩
  · refine h.hangs.congr fun j hj => ?_
    rw [hlink, if_neg fun e : ⟨t.nextNode⟩ = j => hloose (e ▸ hj)]
  · intro j n hn
    rw [hlink] at hn
    split at hn
    · next e =>
      rw [← e]
      exact Nat.lt_succ_self _
    · exact Nat.lt_succ_of_lt (h.fresh hn)
  · rw [hlink, if_pos rfl]

/-- If the new panel is the only node that hangs nowhere, no loose node is left. -/
theorem splitPanel_holds_of_loose {t : Tree} {l : Layout} (h : t.Carries l) {target new : NodeId}
    {p p' : Panel} (hp : (target, p) ∈ l.panels) (hnew : t.link? new = some ⟨none, .panel p'⟩)
    (hloose : new ∉ l.ids) (hall : ∀ {j n}, t.link? j = some n → j ≠ new → j ∈ l.ids)
    (o : Orientation) (first : Bool) :
    ∃ u, t.splitPanel target new o first = (.ok ⟨t.nextNode⟩, u) ∧
      u.Holds (l.graft target fun p =>
        beside ⟨t.nextNode⟩ o first (.panel new p') (.panel target p)) ∧
      u.nextNode = t.nextNode + 1 := by
  obtain ⟨u, hu, hcarries, hframe, hnext⟩ := splitPanel_carries h hp hnew hloose o first
  refine ⟨u, hu, { hcarries with all := ?_ }, hnext⟩
  intro j n hn
  rw [mem_ids_graft_beside h.nodup hp]
  by_contra hj
  simp only [not_or] at hj
  obtain ⟨hjid, hjnew, hj⟩ := hj
  rw [hframe j hj hjnew hjid] at hn
  exact hj (hall hn hjnew)

/-- A new panel that is put beside a panel leaves no loose node. -/
theorem splitPanel_holds {t : Tree} {l : Layout} (h : t.Holds l) {target : NodeId} {p : Panel}
    (hp : (target, p) ∈ l.panels) (p' : Panel) (o : Orientation) (first : Bool) :
    ∃ u, (t.insertPanel p').2.splitPanel target ⟨t.nextNode⟩ o first =
        (.ok ⟨t.nextNode + 1⟩, u) ∧
      u.Holds (l.graft target fun p =>
        beside ⟨t.nextNode + 1⟩ o first (.panel ⟨t.nextNode⟩ p') (.panel target p)) ∧
      u.nextNode = t.nextNode + 2 := by
  obtain ⟨hcarries, hnew, hloose⟩ := insertPanel_carries h p'
  refine splitPanel_holds_of_loose hcarries hp hnew hloose ?_ o first
  intro j n hn hj
  rw [insertPanel, link?_addNode, if_neg (Ne.symm hj)] at hn
  exact h.all hn

end Tree

end Docking
