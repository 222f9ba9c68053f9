import Docking.Proofs.Tree.Shape
import Docking.Proofs.Tree.Survey

/-!
# The check decides whether a tree is valid

Nothing in the type of a tree keeps links from leading nowhere, from sharing a node or from going in
circles, and the check is meant for such trees. It is a loop over a stack of nodes that are still to
be looked at, and the loop asks nowhere whether it has been at a node before. It comes to an end all
the same: it goes down only along links that are answered by a parent link, so from every node that
it gets to one can climb back to the root, which has no parent. Nodes at different heights above
are different nodes, and there are only so many.

`Tree.check` is the loop with a bound on how far it goes down. The bound is never met, so the two
say the same, and what they say is whether the tree is valid.

## Main definitions

* `Tree.Valid`: the nodes form one tree, and the panels are in order.
* `Tree.Sweeps`, `Tree.Concludes`: the loop, and the whole check with the loop in it.
* `Tree.climb`: the node that one gets to by following parent links.

* `Tree.Covers`: a walk does what the loop does with some nodes.

## Main results

* `sweeps_surveyBelow`: the loop comes to an end, with what the bounded walk comes to.
* `survey_of_ok`: what a walk that comes through says about the nodes it has met.
* `WellFormed.exists_hangs`: well-formed nodes form a layout.
* `check_decides`: the check comes to an end for every tree, and passes exactly the valid ones.
-/

namespace Docking

namespace Tree

/-- What a layout tree should be. -/
structure Valid (t : Tree) : Prop extends t.WellFormed where
  /-- A panel that is not the root has a tab. -/
  filled : ∀ {id p}, t.panel? id = some p → p.isEmpty → id = t.root
  /-- The active tab of a panel is one of its tabs, and only an empty panel has none. -/
  active : ∀ {id p}, t.panel? id = some p →
    (∀ tab, p.active = some tab → tab ∈ p.tabIds) ∧ (p.active = none → p.tabs = [])
  /-- A tab has one position in one panel. -/
  position : ∀ {id id' p p' tab} {i j : Nat}, t.panel? id = some p → t.panel? id' = some p' →
    p.tabIds[i]? = some tab → p'.tabIds[j]? = some tab → id = id' ∧ i = j

/-! ## The loop -/

/-- One turn of the loop: a node is looked at. The result is what has to be looked at next, the
topmost first, with what has been met by then. -/
def visit (t : Tree) (id : NodeId) (seen : Survey) : Except Violation (List NodeId × Survey) :=
  match t.nodes.get? id with
  | none => .error (.missing id)
  | some node =>
    match node.body with
    | .panel panel => (surveyPanel t id panel seen).map fun met => ([], met)
    | .split split =>
      if split.children.length ≠ 2 then .error (.splitArity id split.children.length)
      else
        match t.strayChild? id split with
        | some child => .error (.brokenParentLink child)
        | none => .ok (split.children.reverse, ⟨id :: seen.nodes, seen.tabs⟩)

/-- The loop takes a node from the stack as long as there is one. It ends in one way or another, or
not at all. -/
inductive Sweeps (t : Tree) : List NodeId → Survey → Except Violation Survey → Prop
  | done (seen : Survey) : Sweeps t [] seen (.ok seen)
  | stop {id : NodeId} {seen : Survey} {e : Violation} (h : t.visit id seen = .error e)
      (stack : List NodeId) : Sweeps t (id :: stack) seen (.error e)
  | next {id : NodeId} {stack below : List NodeId} {seen met : Survey}
      {result : Except Violation Survey} (h : t.visit id seen = .ok (below, met))
      (hrest : Sweeps t (below ++ stack) met result) : Sweeps t (id :: stack) seen result

/-- The check with the loop in it, and what it concludes. -/
inductive Concludes (t : Tree) : Except Violation Unit → Prop
  | hanging (h : (t.parent? t.root).isSome) : Concludes t (.error (.brokenParentLink t.root))
  | stop {e : Violation} (hroot : t.parent? t.root = none)
      (h : t.Sweeps [t.root] ⟨[], []⟩ (.error e)) : Concludes t (.error e)
  | orphan {seen : Survey} {orphan : NodeId} (hroot : t.parent? t.root = none)
      (h : t.Sweeps [t.root] ⟨[], []⟩ (.ok seen))
      (horphan : t.nodes.keys.find? (· ∉ seen.nodes) = some orphan) :
      Concludes t (.error (.orphan orphan))
  | pass {seen : Survey} (hroot : t.parent? t.root = none)
      (h : t.Sweeps [t.root] ⟨[], []⟩ (.ok seen))
      (hall : t.nodes.keys.find? (· ∉ seen.nodes) = none) : Concludes t (.ok ())

section Loop

variable {t : Tree}

/-- The loop ends in one way only. -/
theorem Sweeps.unique {stack : List NodeId} {seen : Survey} {r r' : Except Violation Survey}
    (h : t.Sweeps stack seen r) (h' : t.Sweeps stack seen r') : r = r' := by
  induction h generalizing r' with
  | done seen =>
      cases h' with
      | done => rfl
  | stop h stack =>
      cases h' with
      | stop h' => exact congrArg Except.error (Except.error.inj (h.symm.trans h'))
      | next h' => cases h.symm.trans h'
  | next h hrest ih =>
      cases h' with
      | stop h' => cases h.symm.trans h'
      | next h' hrest' =>
          obtain ⟨rfl, rfl⟩ := Prod.mk.inj (Except.ok.inj (h.symm.trans h'))
          exact ih hrest'

/-- A bounded walk that is not at its bound takes a turn of the loop and goes on below. -/
theorem surveyBelow_succ (depth : Nat) (id : NodeId) (seen : Survey) :
    t.surveyBelow (depth + 1) id seen = (t.visit id seen).bind fun turn =>
      turn.1.foldlM (fun seen child => t.surveyBelow depth child seen) turn.2 := by
  rw [surveyBelow, visit]
  cases t.nodes.get? id with
  | none => rfl
  | some node =>
      cases hbody : node.body with
      | panel p =>
          simp only [hbody]
          cases t.surveyPanel id p seen <;> rfl
      | split s =>
          simp only [hbody]
          by_cases harity : s.children.length ≠ 2
          · simp only [if_pos harity]
            rfl
          · simp only [if_neg harity]
            cases t.strayChild? id s <;> rfl

/-- A turn that comes through was at a panel in order, or at a split of two children whose parent
links name it. -/
theorem visit_ok {id : NodeId} {seen met : Survey} {below : List NodeId}
    (h : t.visit id seen = .ok (below, met)) :
    (∃ p, t.link? id = some ⟨t.parent? id, .panel p⟩ ∧ below = [] ∧
      t.surveyPanel id p seen = .ok met) ∨
    ∃ s x y, t.link? id = some ⟨t.parent? id, .split s⟩ ∧ s.children = [x, y] ∧
      t.parent? x = some id ∧ t.parent? y = some id ∧ below = [y, x] ∧
      met = ⟨id :: seen.nodes, seen.tabs⟩ := by
  rw [visit] at h
  cases hnode : t.nodes.get? id with
  | none => simp [hnode] at h
  | some node =>
      have hlink : t.link? id = some ⟨t.parent? id, node.body⟩ := by
        rw [link?, parent?, hnode]
        rfl
      simp only [hnode] at h
      cases hbody : node.body with
      | panel p =>
          simp only [hbody] at h
          cases hsurvey : t.surveyPanel id p seen with
          | error e =>
              rw [hsurvey] at h
              cases h
          | ok s =>
              rw [hsurvey] at h
              obtain ⟨rfl, rfl⟩ := Prod.mk.inj (Except.ok.inj h)
              exact .inl ⟨p, hbody ▸ hlink, rfl, hsurvey⟩
      | split s =>
          simp only [hbody] at h
          split at h
          · cases h
          · next harity =>
            obtain ⟨x, y, hxy⟩ := List.length_eq_two.1 (not_not.1 harity)
            cases hstray : t.strayChild? id s with
            | some child => simp [hstray] at h
            | none =>
                simp only [hstray] at h
                obtain ⟨rfl, rfl⟩ := Prod.mk.inj (Except.ok.inj h)
                rw [strayChild?, List.find?_eq_none, hxy] at hstray
                have hx : t.parent? x = some id := by simpa using hstray x (by simp)
                have hy : t.parent? y = some id := by simpa using hstray y (by simp)
                exact .inr ⟨s, x, y, hbody ▸ hlink, hxy, hx, hy, by rw [hxy]; rfl, rfl⟩

/-- What a turn puts on the stack are children of the node, in the sense of the parent links. -/
theorem parent?_of_visit {id child : NodeId} {seen met : Survey} {below : List NodeId}
    (h : t.visit id seen = .ok (below, met)) (hchild : child ∈ below) :
    t.parent? child = some id := by
  rcases visit_ok h with ⟨p, -, rfl, -⟩ | ⟨s, x, y, -, -, hx, hy, rfl, -⟩
  · cases hchild
  · rcases List.mem_pair.1 hchild with rfl | rfl
    · exact hy
    · exact hx

end Loop

/-! ## Climbing -/

/-- The node that one gets to by following parent links, a given number of times. -/
def climb (t : Tree) : Nat → NodeId → Option NodeId
  | 0, id => some id
  | steps + 1, id => (t.parent? id).bind (t.climb steps)

section Climbing

variable {t : Tree} {steps steps' : Nat} {id : NodeId}

/-- One gets to a root without a parent in one number of steps only. -/
theorem climb_unique (hroot : t.parent? t.root = none) (h : t.climb steps id = some t.root)
    (h' : t.climb steps' id = some t.root) : steps = steps' := by
  have top : ∀ {steps}, t.climb steps t.root = some t.root → steps = 0 := by
    intro steps h
    cases steps with
    | zero => rfl
    | succ steps =>
        rw [climb, hroot] at h
        cases h
  induction steps generalizing id steps' with
  | zero =>
      obtain rfl : id = t.root := Option.some.inj h
      exact (top h').symm
  | succ steps ih =>
      cases steps' with
      | zero =>
          obtain rfl : id = t.root := Option.some.inj h'
          exact top h
      | succ steps' =>
          rw [climb, Option.bind_eq_some_iff] at h h'
          obtain ⟨p, hp, h⟩ := h
          obtain ⟨p', hp', h'⟩ := h'
          obtain rfl : p = p' := Option.some.inj (hp.symm.trans hp')
          rw [ih h h']

/-- The nodes on the way up to the root are different from each other, since the root is at a
different height above each of them. -/
private theorem exists_way_up (hroot : t.parent? t.root = none)
    (h : t.climb steps id = some t.root) : ∃ way : List NodeId, way.length = steps ∧ way.Nodup ∧
      ∀ j ∈ way, t.contains j ∧ ∃ n ≤ steps, t.climb n j = some t.root := by
  induction steps generalizing id with
  | zero => exact ⟨[], rfl, .nil, by simp⟩
  | succ steps ih =>
      have h' := h
      rw [climb, Option.bind_eq_some_iff] at h
      obtain ⟨p, hp, h⟩ := h
      obtain ⟨way, hlength, hnodup, hway⟩ := ih h
      have hid : t.contains id := by
        rw [parent?, Option.bind_eq_some_iff] at hp
        obtain ⟨node, hnode, -⟩ := hp
        rw [contains, Table.contains, hnode]
        rfl
      have hnew : id ∉ way := by
        intro hmem
        obtain ⟨-, n, hn, hclimb⟩ := hway id hmem
        have := climb_unique hroot h' hclimb
        omega
      refine ⟨id :: way, by rw [List.length_cons, hlength], List.nodup_cons.2 ⟨hnew, hnodup⟩, ?_⟩
      intro j hj
      rcases List.mem_cons.1 hj with rfl | hj
      · exact ⟨hid, steps + 1, Nat.le_refl _, h'⟩
      · obtain ⟨hcontains, n, hn, hclimb⟩ := hway j hj
        exact ⟨hcontains, n, Nat.le_succ_of_le hn, hclimb⟩

/-- One gets to a root without a parent in at most as many steps as there are nodes. -/
theorem climb_le_size (hroot : t.parent? t.root = none) (h : t.climb steps id = some t.root) :
    steps ≤ t.size := by
  obtain ⟨way, hlength, hnodup, hway⟩ := exists_way_up hroot h
  have hsubset : way ⊆ t.nodes.keys := fun j hj => Table.mem_keys_iff.2 (hway j hj).1
  have := hnodup.length_le_of_subset hsubset
  rwa [hlength, Table.keys, List.length_map] at this

theorem climb_child {child : NodeId} (h : t.climb steps id = some t.root)
    (hchild : t.parent? child = some id) : t.climb (steps + 1) child = some t.root := by
  rw [climb, hchild]
  exact h

/-! ## The loop comes to an end -/

/-- What a walk comes to is what the loop comes to until it is through with the topmost nodes `todo`
of the stack. -/
def Covers (t : Tree) (todo : List NodeId) (seen : Survey) : Except Violation Survey → Prop
  | .ok met => ∀ stack result, t.Sweeps stack met result → t.Sweeps (todo ++ stack) seen result
  | .error e => ∀ stack, t.Sweeps (todo ++ stack) seen (.error e)

theorem covers_nil (seen : Survey) : t.Covers [] seen (.ok seen) := fun _ _ h => h

/-- The loop is through with some nodes first, and then with others. -/
theorem Covers.bind {first rest : List NodeId} {seen : Survey} {outcome : Except Violation Survey}
    {walk : Survey → Except Violation Survey} (hfirst : t.Covers first seen outcome)
    (hrest : ∀ met, t.Covers rest met (walk met)) :
    t.Covers (first ++ rest) seen (outcome.bind walk) := by
  cases outcome with
  | error e =>
      intro stack
      rw [List.append_assoc]
      exact hfirst _
  | ok met =>
      have hlater := hrest met
      show t.Covers (first ++ rest) seen (walk met)
      cases hwalk : walk met with
      | error e =>
          rw [hwalk] at hlater
          intro stack
          rw [List.append_assoc]
          exact hfirst _ _ (hlater stack)
      | ok met' =>
          rw [hwalk] at hlater
          intro stack result hresult
          rw [List.append_assoc]
          exact hfirst _ _ (hlater stack result hresult)

/-- Nodes that are walked over one by one. -/
theorem covers_foldlM {walk : Survey → NodeId → Except Violation Survey} {below : List NodeId}
    (h : ∀ child ∈ below, ∀ seen, t.Covers [child] seen (walk seen child)) (seen : Survey) :
    t.Covers below seen (below.foldlM walk seen) := by
  induction below generalizing seen with
  | nil => exact covers_nil seen
  | cons child rest ih =>
      rw [List.foldlM_cons]
      have hchild := h child (List.mem_cons_self ..) seen
      exact hchild.bind (ih fun c hc => h c (List.mem_cons_of_mem _ hc))

/-- A turn of the loop comes before what it puts on the stack. -/
theorem covers_visit {seen met : Survey} {below : List NodeId} {outcome : Except Violation Survey}
    (hvisit : t.visit id seen = .ok (below, met)) (h : t.Covers below met outcome) :
    t.Covers [id] seen outcome := by
  cases outcome with
  | error e => exact fun stack => .next hvisit (h stack)
  | ok _ => exact fun stack result hresult => .next hvisit (h stack result hresult)

/-- A walk from a node with enough levels below it is what the loop does until it is through with
the node. -/
theorem covers_surveyBelow (hroot : t.parent? t.root = none) {depth : Nat}
    (hid : t.climb steps id = some t.root) (hdepth : t.size < depth + steps) (seen : Survey) :
    t.Covers [id] seen (t.surveyBelow depth id seen) := by
  induction depth generalizing id steps seen with
  | zero =>
      have := climb_le_size hroot hid
      omega
  | succ depth ih =>
      rw [surveyBelow_succ]
      cases hvisit : t.visit id seen with
      | error e => exact fun stack => .stop hvisit stack
      | ok turn =>
          -- the children are one step further from the root
          have hbelow : ∀ child ∈ turn.1, ∀ seen,
              t.Covers [child] seen (t.surveyBelow depth child seen) := by
            intro child hchild seen
            exact ih (climb_child hid (parent?_of_visit hvisit hchild)) (by omega) seen
          exact covers_visit hvisit (covers_foldlM hbelow turn.2)

/-- Where the root has no parent the loop comes to an end, with what the bounded walk comes to. -/
theorem sweeps_surveyBelow (hroot : t.parent? t.root = none) :
    t.Sweeps [t.root] ⟨[], []⟩ (t.surveyBelow (t.size + 1) t.root ⟨[], []⟩) := by
  have hclimb : t.climb 0 t.root = some t.root := rfl
  have hcovers := covers_surveyBelow hroot hclimb (Nat.lt_succ_self t.size) ⟨[], []⟩
  cases hwalk : t.surveyBelow (t.size + 1) t.root ⟨[], []⟩ with
  | error e =>
      rw [hwalk] at hcovers
      exact hcovers []
  | ok met =>
      rw [hwalk] at hcovers
      exact hcovers [] _ (.done met)

/-- The check with the loop comes to one conclusion only. -/
theorem Concludes.unique {verdict verdict' : Except Violation Unit} (h : t.Concludes verdict)
    (h' : t.Concludes verdict') : verdict = verdict' := by
  cases h with
  | hanging h =>
      cases h' with
      | hanging => rfl
      | _ hroot => simp [hroot] at h
  | stop hroot h =>
      cases h' with
      | hanging h' => simp [hroot] at h'
      | stop _ h' => rw [Except.error.inj (h.unique h')]
      | _ _ h' => cases h.unique h'
  | orphan hroot h horphan =>
      cases h' with
      | hanging h' => simp [hroot] at h'
      | stop _ h' => cases h.unique h'
      | orphan _ h' horphan' =>
          obtain rfl := Except.ok.inj (h.unique h')
          rw [Option.some.inj (horphan.symm.trans horphan')]
      | pass _ h' hall =>
          obtain rfl := Except.ok.inj (h.unique h')
          cases horphan.symm.trans hall
  | pass hroot h hall =>
      cases h' with
      | hanging h' => simp [hroot] at h'
      | stop _ h' => cases h.unique h'
      | orphan _ h' horphan =>
          obtain rfl := Except.ok.inj (h.unique h')
          cases hall.symm.trans horphan
      | pass => rfl

/-- The check is a conclusion of the check with the loop. -/
theorem concludes_check (t : Tree) : t.Concludes t.check := by
  unfold check
  cases hroot : t.parent? t.root with
  | some p => exact .hanging (by rw [hroot]; rfl)
  | none =>
      have hsweeps := sweeps_surveyBelow hroot
      cases hwalk : t.surveyBelow (t.size + 1) t.root ⟨[], []⟩ with
      | error e => exact .stop hroot (hwalk ▸ hsweeps)
      | ok seen =>
          rw [hwalk] at hsweeps
          simp only [Option.isSome_none, Bool.false_eq_true, if_false]
          split
          · next orphan horphan => exact .orphan hroot hsweeps horphan
          · next hall => exact .pass hroot hsweeps hall

/-- The check is what the check with the loop concludes, and that concludes nothing else. -/
theorem concludes_iff (t : Tree) (verdict : Except Violation Unit) :
    t.Concludes verdict ↔ verdict = t.check := by
  constructor
  · exact fun h => h.unique t.concludes_check
  · rintro rfl
    exact t.concludes_check

end Climbing

/-! ## What passes the check -/

open Layout hiding id

/-- What a walk that came through has found: the part of the layout that it went over, with all its
nodes and tabs. -/
structure Finds (t : Tree) (q : Option NodeId) (l : Layout) (seen met : Survey) : Prop where
  hangs : t.Hangs q l
  tidy : l.Tidy
  filled : ∀ x ∈ l.panels, x.2.isEmpty → x.1 = t.root
  new : ∀ tab ∈ l.tabIds, tab ∉ seen.tabs
  nodes : ∀ j, j ∈ met.nodes ↔ j ∈ l.ids ∨ j ∈ seen.nodes
  tabs : ∀ tab, tab ∈ met.tabs ↔ tab ∈ l.tabIds ∨ tab ∈ seen.tabs

section Soundness

variable {t : Tree} {q : Option NodeId} {l : Layout} {id : NodeId} {seen met : Survey}

theorem surveyTabs_ok {tabs seen met : List TabId} (h : surveyTabs seen tabs = .ok met) :
    tabs.Nodup ∧ (∀ tab ∈ tabs, tab ∉ seen) ∧ ∀ tab, tab ∈ met ↔ tab ∈ tabs ∨ tab ∈ seen := by
  induction tabs generalizing seen with
  | nil =>
      obtain rfl := Except.ok.inj h
      simp
  | cons tab rest ih =>
      rw [surveyTabs] at h
      by_cases htab : tab ∈ seen
      · rw [if_pos htab] at h
        cases h
      · rw [if_neg htab] at h
        obtain ⟨hnodup, hnew, hmet⟩ := ih h
        have htail : tab ∉ rest := fun hmem => hnew tab hmem (List.mem_cons_self ..)
        refine ⟨List.nodup_cons.2 ⟨htail, hnodup⟩, ?_, ?_⟩
        · intro u hu
          rcases List.mem_cons.1 hu with rfl | hu
          · exact htab
          · exact fun hseen => hnew u hu (List.mem_cons_of_mem _ hseen)
        · intro u
          rw [hmet, List.mem_cons, List.mem_cons]
          tauto

private theorem finds_panel {p : Panel} (hlink : t.link? id = some ⟨q, .panel p⟩)
    (h : t.surveyPanel id p seen = .ok met) : t.Finds q (.panel id p) seen met := by
  have htabIds : (Layout.panel id p).tabIds = p.tabIds := by simp [tabIds, panels]
  rw [surveyPanel] at h
  split at h
  · cases h
  · next hfilled =>
    split at h
    · next hfits =>
      cases htabs : surveyTabs seen.tabs p.tabIds with
      | error e => simp [htabs] at h
      | ok tabs =>
          rw [htabs] at h
          obtain rfl := Except.ok.inj h
          obtain ⟨hnodup, hnew, hmet⟩ := surveyTabs_ok htabs
          exact
            { hangs := hlink
              tidy := tidy_panel id (activeFits_iff.1 hfits) hnodup
              filled := by simpa [panels] using hfilled
              new := htabIds ▸ hnew
              nodes := by simp [ids]
              tabs := htabIds ▸ hmet }
    · cases h

private theorem finds_split {o : Orientation} {r : Float32} {a b : Layout} {mid : Survey}
    (hlink : t.link? id = some ⟨q, .split ⟨o, r, [a.id, b.id]⟩⟩)
    (hb : t.Finds (some id) b ⟨id :: seen.nodes, seen.tabs⟩ mid)
    (ha : t.Finds (some id) a mid met) : t.Finds q (.split id o r a b) seen met where
  hangs := ⟨hlink, ha.hangs, hb.hangs⟩
  tidy :=
    { fits := by
        intro x hx
        exact (List.mem_append.1 hx).elim (ha.tidy.fits x) (hb.tidy.fits x)
      nodup := by
        rw [tabIds_split, List.nodup_append]
        refine ⟨ha.tidy.nodup, hb.tidy.nodup, ?_⟩
        rintro tab hta _ htb rfl
        exact ha.new tab hta ((hb.tabs tab).2 (.inl htb)) }
  filled := by
    intro x hx
    exact (List.mem_append.1 hx).elim (ha.filled x) (hb.filled x)
  new := by
    intro tab htab hseen
    rw [tabIds_split, List.mem_append] at htab
    rcases htab with htab | htab
    · exact ha.new tab htab ((hb.tabs tab).2 (.inr hseen))
    · exact hb.new tab htab hseen
  nodes := by
    intro j
    rw [ha.nodes, hb.nodes, ids, List.mem_cons, List.mem_cons, List.mem_append]
    tauto
  tabs := by
    intro tab
    rw [ha.tabs, hb.tabs, tabIds_split, List.mem_append, or_assoc]

private theorem exists_of_bind_eq_ok {α β : Type} {x : Except Violation α}
    {f : α → Except Violation β} {b : β} (h : x.bind f = .ok b) : ∃ a, x = .ok a ∧ f a = .ok b := by
  cases x with
  | error e => cases h
  | ok a => exact ⟨a, rfl, h⟩

/-- A walk that comes through has gone over a tidy layout whose panels are filled. -/
theorem survey_of_ok {depth : Nat} (h : t.surveyBelow depth id seen = .ok met) :
    ∃ l, l.id = id ∧ t.Finds (t.parent? id) l seen met := by
  induction depth generalizing id seen met with
  | zero => cases h
  | succ depth ih =>
      rw [surveyBelow_succ] at h
      obtain ⟨⟨below, mid⟩, hvisit, h⟩ := exists_of_bind_eq_ok h
      rcases visit_ok hvisit with
        ⟨p, hlink, rfl, hpanel⟩ | ⟨s, x, y, hlink, hxy, hx, hy, rfl, rfl⟩
      · obtain rfl : mid = met := Except.ok.inj h
        exact ⟨.panel id p, rfl, finds_panel hlink hpanel⟩
      · -- the second child is walked over first
        obtain ⟨between, hwalkY, h⟩ := exists_of_bind_eq_ok h
        obtain ⟨met', hwalkX, h⟩ := exists_of_bind_eq_ok h
        obtain rfl : met' = met := Except.ok.inj h
        obtain ⟨b, rfl, hb⟩ := ih hwalkY
        obtain ⟨a, rfl, ha⟩ := ih hwalkX
        rw [hy] at hb
        rw [hx] at ha
        have hsplit : t.link? id =
            some ⟨t.parent? id, .split ⟨s.orientation, s.ratio, [a.id, b.id]⟩⟩ := by
          rw [hlink, ← hxy]
        exact ⟨.split id s.orientation s.ratio a b, rfl, finds_split hsplit hb ha⟩

/-- The part of a layout that hangs at one of its nodes. -/
private theorem Hangs.exists_part (h : t.Hangs q l) {j : NodeId} (hj : j ∈ l.ids) :
    ∃ m, m.id = j ∧ t.Hangs (t.parent? j) m ∧ m.height ≤ l.height ∧
      ∀ x ∈ m.panels, x ∈ l.panels := by
  induction l generalizing q with
  | panel i p =>
      rw [ids, List.mem_singleton] at hj
      subst hj
      refine ⟨.panel j p, rfl, ?_, Nat.le_refl _, fun x hx => hx⟩
      rwa [show t.parent? j = q from h.parent?_eq]
  | split i o s a b iha ihb =>
      rw [ids, List.mem_cons, List.mem_append] at hj
      simp only [height, panels, List.mem_append]
      rcases hj with rfl | hj | hj
      · refine ⟨.split j o s a b, rfl, ?_, Nat.le_refl _, fun x hx => List.mem_append.1 hx⟩
        rwa [show t.parent? j = q from h.parent?_eq]
      · obtain ⟨m, hm, hangs, hheight, hpanels⟩ := iha h.2.1 hj
        exact ⟨m, hm, hangs, by omega, fun x hx => .inl (hpanels x hx)⟩
      · obtain ⟨m, hm, hangs, hheight, hpanels⟩ := ihb h.2.2 hj
        exact ⟨m, hm, hangs, by omega, fun x hx => .inr (hpanels x hx)⟩

/-- What hangs below a node has parents. -/
private theorem Hangs.parent?_ne_none {i : NodeId} (h : t.Hangs (some i) l) {j : NodeId}
    (hj : j ∈ l.ids) : t.parent? j ≠ none := by
  induction l generalizing i with
  | panel k p =>
      rw [ids, List.mem_singleton] at hj
      subst hj
      rw [show t.parent? j = some i from h.parent?_eq]
      exact Option.some_ne_none i
  | split k o s a b iha ihb =>
      rw [ids, List.mem_cons, List.mem_append] at hj
      rcases hj with rfl | hj | hj
      · rw [show t.parent? j = some i from h.parent?_eq]
        exact Option.some_ne_none i
      · exact iha h.2.1 hj
      · exact ihb h.2.2 hj

/-- No node occurs twice in a tidy layout whose panels are filled. A split does not occur below
itself, because what hangs at it is one layout of one height. Two parts of a split share no node,
because they would share a panel with its tabs. -/
private theorem Hangs.nodup_ids (h : t.Hangs q l) (ht : l.Tidy)
    (hfilled : ∀ x ∈ l.panels, x.2.isEmpty → x.1 = t.root) (hroot : t.parent? t.root = none) :
    l.ids.Nodup := by
  induction l generalizing q with
  | panel i p => simp [ids]
  | split i o s a b iha ihb =>
      have hpanels : (Layout.split i o s a b).panels = a.panels ++ b.panels := rfl
      have ha : t.Hangs (some i) a := h.2.1
      have hb : t.Hangs (some i) b := h.2.2
      have hta : a.Tidy := tidy_of_sublist ht (hpanels ▸ List.sublist_append_left ..)
      have htb : b.Tidy := tidy_of_sublist ht (hpanels ▸ List.sublist_append_right ..)
      rw [hpanels] at hfilled
      have habove : ∀ c : Layout, t.Hangs (some i) c →
          c.height < (Layout.split i o s a b).height → i ∉ c.ids := by
        intro c hc hheight hi
        obtain ⟨m, hm, hangs, hle, -⟩ := hc.exists_part hi
        rw [show t.parent? i = q from h.parent?_eq] at hangs
        have hsame : Layout.split i o s a b = m := h.unique hangs hm.symm
        rw [← hsame] at hle
        omega
      have hheight : (Layout.split i o s a b).height = max a.height b.height + 1 := rfl
      have hdisjoint : ∀ j ∈ a.ids, j ∉ b.ids := by
        intro j hja hjb
        obtain ⟨m, hm, hangs, -, hma⟩ := ha.exists_part hja
        obtain ⟨m', hm', hangs', -, hmb⟩ := hb.exists_part hjb
        obtain rfl : m = m' := hangs.unique hangs' (hm.trans hm'.symm)
        obtain ⟨x, hx⟩ := List.exists_mem_of_ne_nil _ m.panels_ne_nil
        have hparent := ha.parent?_ne_none (mem_ids_of_mem_panels (hma x hx))
        have hempty : ¬ x.2.isEmpty := by
          intro he
          rw [hfilled x (List.mem_append_left _ (hma x hx)) he] at hparent
          exact hparent hroot
        rw [Panel.isEmpty_iff] at hempty
        obtain ⟨tab, htab⟩ := List.exists_mem_of_ne_nil _ hempty
        have htabA : tab ∈ a.tabIds := List.mem_flatMap.2 ⟨x, hma x hx, htab⟩
        have htabB : tab ∈ b.tabIds := List.mem_flatMap.2 ⟨x, hmb x hx, htab⟩
        have hnodup := ht.nodup
        rw [tabIds_split, List.nodup_append] at hnodup
        exact hnodup.2.2 tab htabA tab htabB rfl
      rw [ids, List.nodup_cons, List.mem_append, not_or, List.nodup_append]
      refine ⟨⟨habove a ha (by omega), habove b hb (by omega)⟩, ?_, ?_, ?_⟩
      · exact iha ha hta fun x hx => hfilled x (List.mem_append_left _ hx)
      · exact ihb hb htb fun x hx => hfilled x (List.mem_append_right _ hx)
      · rintro j hja _ hjb rfl
        exact hdisjoint j hja hjb

/-- A tree whose nodes all belong to one tidy, filled layout that hangs on the root is valid. -/
private theorem Hangs.valid (h : t.Hangs none l) (hroot : t.root = l.id) (hl : l.ids.Nodup)
    (hall : ∀ {id}, t.contains id → id ∈ l.ids) (ht : l.Tidy) (hfilled : l.Filled) : t.Valid := by
  have hpanel : ∀ {id p}, t.panel? id = some p → (id, p) ∈ l.panels := by
    intro id p hp
    obtain ⟨r, hlink⟩ := panel?_eq_some_iff.1 hp
    exact h.mem_panels (hall (contains_of_link? hlink)) hlink
  exact
    { toWellFormed := h.wellFormed hroot hl hall
      filled := fun hp he => (hfilled _ (hpanel hp) he).trans hroot.symm
      active := fun hp => Panel.fits_iff.1 (ht.fits _ (hpanel hp))
      position := by
        intro id id' p p' tab i j hp hp' hi hj
        have hs : l.Shows id tab := ⟨p, hpanel hp, List.mem_of_getElem? hi⟩
        have hs' : l.Shows id' tab := ⟨p', hpanel hp', List.mem_of_getElem? hj⟩
        obtain rfl := ht.shows_unique hs hs'
        obtain rfl : p = p' := Option.some.inj (hp.symm.trans hp')
        obtain ⟨hi', -⟩ := List.getElem?_eq_some_iff.1 hi
        exact ⟨rfl, (List.getElem?_inj hi' (ht.nodup_panel (hpanel hp))).1 (hi.trans hj.symm)⟩ }

/-- A tree that passes the check is valid. -/
theorem valid_of_check (h : t.check = .ok ()) : t.Valid := by
  rw [check] at h
  cases hroot : t.parent? t.root with
  | some p => simp [hroot] at h
  | none =>
      cases hwalk : t.surveyBelow (t.size + 1) t.root ⟨[], []⟩ with
      | error e => simp [hroot, hwalk] at h
      | ok met =>
          simp only [hroot, hwalk, Option.isSome_none, Bool.false_eq_true, if_false] at h
          have horphan : ∀ j ∈ t.nodes.keys, j ∈ met.nodes := by
            split at h
            · cases h
            · next hfind =>
              intro j hj
              simpa using List.find?_eq_none.1 hfind j hj
          obtain ⟨l, hl, hfinds⟩ := survey_of_ok hwalk
          rw [hroot] at hfinds
          have hnodup := hfinds.hangs.nodup_ids hfinds.tidy hfinds.filled hroot
          have hall : ∀ {id}, t.contains id → id ∈ l.ids := by
            intro id hid
            have hmet := horphan id (Table.mem_keys_iff.2 hid)
            simpa using (hfinds.nodes id).1 hmet
          have hfilled : l.Filled := fun x hx he => (hfinds.filled x hx he).trans hl.symm
          exact hfinds.hangs.valid hl.symm hnodup hall hfinds.tidy hfilled

end Soundness

/-! ## What is valid passes the check -/

section Completeness

variable {t : Tree} {q : Option NodeId} {l : Layout} {id : NodeId}

/-- Well-formed nodes hang together, from every node downwards. -/
private theorem WellFormed.hangs_below (h : t.WellFormed) {depth steps : Nat}
    (hclimb : t.climb steps id = some t.root) (hid : t.contains id)
    (hdepth : t.size < depth + steps) : ∃ l, l.id = id ∧ t.Hangs (t.parent? id) l := by
  induction depth generalizing id steps with
  | zero =>
      have := climb_le_size h.root.2 hclimb
      omega
  | succ depth ih =>
      rw [contains_eq, Option.isSome_iff_exists] at hid
      obtain ⟨⟨r, body⟩, hlink⟩ := hid
      have hparent : t.parent? id = r := by
        rw [parent?_eq, hlink]
        rfl
      rw [hparent]
      cases body with
      | panel p => exact ⟨.panel id p, rfl, hlink⟩
      | split s =>
          obtain ⟨x, y, hxy, -, hchild⟩ := h.children (split?_eq_some_iff.2 ⟨r, hlink⟩)
          have below : ∀ child ∈ s.children, ∃ l, l.id = child ∧ t.Hangs (some id) l := by
            intro child hmem
            obtain ⟨hcontains, hup⟩ := hchild child hmem
            rw [← hup]
            exact ih (climb_child hclimb hup) hcontains (by omega)
          obtain ⟨a, rfl, ha⟩ := below x (by simp [hxy])
          obtain ⟨b, rfl, hb⟩ := below y (by simp [hxy])
          refine ⟨.split id s.orientation s.ratio a b, rfl, ?_, ha, hb⟩
          rw [hlink, ← hxy]

/-- Where there is one way down to a node, the node occurs once. -/
private theorem Hangs.nodup_of_descends (h : t.Hangs q l) (hw : t.WellFormed)
    (hunique : ∀ {j path path'}, t.Descends l.id path j → t.Descends l.id path' j → path = path') :
    l.ids.Nodup := by
  induction l generalizing q with
  | panel i p => simp [ids]
  | split i o s a b iha ihb =>
      have hsplit : t.split? i = some ⟨o, s, [a.id, b.id]⟩ := split?_eq_some_iff.2 ⟨q, h.1⟩
      have hne : a.id ≠ b.id := by
        obtain ⟨x, y, hxy, hne, -⟩ := hw.children hsplit
        simp only [List.cons.injEq, and_true] at hxy
        rwa [hxy.1, hxy.2]
      have downA : ∀ {path j}, t.Descends a.id path j → t.Descends i (a.id :: path) j :=
        fun hpath => .down hsplit (by simp) hpath
      have downB : ∀ {path j}, t.Descends b.id path j → t.Descends i (b.id :: path) j :=
        fun hpath => .down hsplit (by simp) hpath
      rw [ids, List.nodup_cons, List.mem_append, not_or, List.nodup_append]
      refine ⟨⟨?_, ?_⟩, iha h.2.1 ?_, ihb h.2.2 ?_, ?_⟩
      · intro hi
        obtain ⟨path, hpath⟩ := h.2.1.exists_descends hi
        exact List.cons_ne_nil _ _ (hunique (downA hpath) (.here i))
      · intro hi
        obtain ⟨path, hpath⟩ := h.2.2.exists_descends hi
        exact List.cons_ne_nil _ _ (hunique (downB hpath) (.here i))
      · intro j path path' hpath hpath'
        exact (List.cons.inj (hunique (downA hpath) (downA hpath'))).2
      · intro j path path' hpath hpath'
        exact (List.cons.inj (hunique (downB hpath) (downB hpath'))).2
      · rintro j hja _ hjb rfl
        obtain ⟨path, hpath⟩ := h.2.1.exists_descends hja
        obtain ⟨path', hpath'⟩ := h.2.2.exists_descends hjb
        exact hne (List.cons.inj (hunique (downA hpath) (downB hpath'))).1

/-- Well-formed nodes form one layout, which hangs on the root. -/
theorem WellFormed.exists_hangs (h : t.WellFormed) : ∃ l, t.root = l.id ∧ t.Hangs none l ∧
    l.ids.Nodup ∧ ∀ {id}, t.contains id → id ∈ l.ids := by
  have hclimb : t.climb 0 t.root = some t.root := rfl
  obtain ⟨l, hroot, hl⟩ := h.hangs_below hclimb h.root.1 (Nat.lt_succ_self t.size)
  rw [h.root.2] at hl
  refine ⟨l, hroot.symm, hl, hl.nodup_of_descends h ?_, ?_⟩
  · intro j path path' hpath hpath'
    rw [hroot] at hpath hpath'
    have hj : t.contains j := by
      have hmem := hl.mem_ids_of_descends (hroot.symm ▸ hpath)
      obtain ⟨n, hn⟩ := hl.link_ne_none hmem
      exact contains_of_link? hn
    exact (h.reached hj).unique hpath hpath'
  · intro id hid
    obtain ⟨path, hpath, -⟩ := h.reached hid
    exact hl.mem_ids_of_descends (hroot.symm ▸ hpath)

/-- A valid tree passes the check. -/
theorem Valid.check_ok (h : t.Valid) : t.check = .ok () := by
  obtain ⟨l, hroot, hl, hnodup, hall⟩ := h.toWellFormed.exists_hangs
  have hpanel : ∀ x ∈ l.panels, t.panel? x.1 = some x.2 :=
    fun x hx => panel?_eq_some_iff.2 (hl.link_of_mem_panels hx)
  have hfits : ∀ x ∈ l.panels, x.2.Fits := fun x hx => Panel.fits_iff.2 (h.active (hpanel x hx))
  have htabs : l.tabIds.Nodup := by
    rw [tabIds, List.nodup_flatMap]
    refine ⟨?_, ?_⟩
    · intro x hx
      rw [List.nodup_iff_getElem?_ne_getElem?]
      intro i j hij hj heq
      obtain ⟨tab, htab⟩ : ∃ tab, x.2.tabIds[j]? = some tab := ⟨_, List.getElem?_eq_getElem hj⟩
      have := (h.position (hpanel x hx) (hpanel x hx) (heq.trans htab) htab).2
      omega
    · have hpairs := List.pairwise_map.1 (nodup_panels hnodup)
      refine hpairs.imp_of_mem ?_
      intro x y hx hy hne tab htx hty
      obtain ⟨i, hi⟩ := List.getElem?_of_mem htx
      obtain ⟨j, hj⟩ := List.getElem?_of_mem hty
      exact hne (h.position (hpanel x hx) (hpanel y hy) hi hj).1
  have hfilled : l.Filled := fun x hx he => (h.filled (hpanel x hx) he).trans hroot
  exact hl.check_ok hroot hnodup hall ⟨hfits, htabs⟩ hfilled

end Completeness

/-- Whatever the links between the nodes are, the check comes to an end, with the verdict that
`Tree.check` gives, and the tree passes exactly if it is valid. -/
theorem check_decides (t : Tree) :
    (∀ verdict, t.Concludes verdict ↔ verdict = t.check) ∧ (t.check = .ok () ↔ t.Valid) :=
  ⟨concludes_iff t, valid_of_check, Valid.check_ok⟩

-- a split that has the same child twice: all parent links agree, and the tab gives it away
example :
    let panel : Node := ⟨some ⟨1⟩, .zero, .panel (.single ⟨⟨7⟩, "A", ⟨⟨1⟩, "p"⟩⟩)⟩
    let split : Node := .ofSplit (.pair .row ⟨2⟩ ⟨2⟩)
    (⟨(Table.empty.insert ⟨1⟩ split).insert ⟨2⟩ panel, ⟨1⟩, 3, .zero⟩ : Tree).check =
      .error (.duplicateTab ⟨7⟩) := by
  rfl

end Tree

end Docking
