import Docking.Proofs.Tree.Holds

/-!
# The shape of a tree that holds a layout

What it means for the table of nodes to be a tree, said about the table itself: the root has no
parent, children and parents agree, and from the root there is one way to every node.

## Main results

* `Hangs.descends_unique`: two ways down to a node are the same.
* `Holds.wellFormed`: a tree that holds a layout is well-formed.
-/

namespace Docking

namespace Tree

open Layout hiding id

/-- The way from one node down to another, as the list of the nodes after the first. -/
inductive Descends (t : Tree) : NodeId → List NodeId → NodeId → Prop
  | here (id : NodeId) : Descends t id [] id
  | down {id child last : NodeId} {s : Split} {path : List NodeId} (hs : t.split? id = some s)
      (hchild : child ∈ s.children) (hpath : Descends t child path last) :
      Descends t id (child :: path) last

/-- The nodes and their links form one tree. -/
structure WellFormed (t : Tree) : Prop where
  root : t.contains t.root ∧ t.parent? t.root = none
  children : ∀ {id s}, t.split? id = some s → ∃ a b, s.children = [a, b] ∧ a ≠ b ∧
    ∀ child ∈ s.children, t.contains child ∧ t.parent? child = some id
  reached : ∀ {id}, t.contains id → ∃! path, t.Descends t.root path id

section Shape

variable {t : Tree} {q : Option NodeId} {l : Layout} {id : NodeId}

theorem Hangs.contains (h : t.Hangs q l) : t.contains l.id := by
  obtain ⟨body, hl⟩ := h.link
  exact contains_of_link? hl

theorem Hangs.parent?_eq (h : t.Hangs q l) : t.parent? l.id = q := by
  obtain ⟨body, hl⟩ := h.link
  rw [Tree.parent?_eq, hl]
  rfl

/-- A split of a layout has the two parts that hang below it as children. -/
theorem Hangs.children (h : t.Hangs q l) (hl : l.ids.Nodup) (hid : id ∈ l.ids) {s : Split}
    (hs : t.split? id = some s) : ∃ a b : Layout, s.children = [a.id, b.id] ∧ a.id ≠ b.id ∧
      t.Hangs (some id) a ∧ t.Hangs (some id) b := by
  induction l generalizing q with
  | panel i p =>
      rw [ids, List.mem_singleton] at hid
      subst hid
      obtain ⟨r, hr⟩ := split?_eq_some_iff.1 hs
      rw [Hangs, hr] at h
      simp at h
  | split i o r a b iha ihb =>
      obtain ⟨hi, ha, hb⟩ := h
      rw [ids, List.nodup_cons, List.nodup_append] at hl
      obtain ⟨-, hal, hbl, hdisjoint⟩ := hl
      rw [ids, List.mem_cons, List.mem_append] at hid
      rcases hid with hid | hid | hid
      · subst hid
        rw [split?_eq_some_iff.2 ⟨q, hi⟩, Option.some_inj] at hs
        subst hs
        exact ⟨a, b, rfl, hdisjoint _ a.id_mem_ids _ b.id_mem_ids, ha, hb⟩
      · exact iha ha hal hid
      · exact ihb hb hbl hid

/-! ## Ways down -/

/-- A way down from a split starts with one of its parts. -/
private theorem descends_split {o : Orientation} {r : Float32} {a b : Layout} {path : List NodeId}
    {last : NodeId} (h : t.Hangs q (.split id o r a b)) (hpath : t.Descends id path last) :
    path = [] ∧ last = id ∨ ∃ c rest, (c = a ∨ c = b) ∧ path = c.id :: rest ∧
      t.Descends c.id rest last := by
  cases hpath with
  | here => exact .inl ⟨rfl, rfl⟩
  | @down _ child _ s rest hs hchild hrest =>
      right
      rw [split?_eq_some_iff.2 ⟨q, h.1⟩, Option.some_inj] at hs
      subst hs
      simp only [List.mem_cons, List.not_mem_nil, or_false] at hchild
      rcases hchild with rfl | rfl
      · exact ⟨a, rest, .inl rfl, rfl, hrest⟩
      · exact ⟨b, rest, .inr rfl, rfl, hrest⟩

/-- Ways down stay within the layout. -/
theorem Hangs.mem_ids_of_descends (h : t.Hangs q l) {path : List NodeId}
    (hpath : t.Descends l.id path id) : id ∈ l.ids := by
  induction l generalizing q path with
  | panel i p =>
      cases hpath with
      | here => exact id_mem_ids _
      | down hs =>
          obtain ⟨r, hr⟩ := split?_eq_some_iff.1 hs
          rw [Hangs, ← id_panel i p, hr] at h
          simp at h
  | split i o r a b iha ihb =>
      rw [ids, List.mem_cons, List.mem_append]
      rcases descends_split h hpath with ⟨-, hlast⟩ | ⟨c, rest, rfl | rfl, -, hrest⟩
      · exact .inl hlast
      · exact .inr (.inl (iha h.2.1 hrest))
      · exact .inr (.inr (ihb h.2.2 hrest))

/-- There is a way down to every node of a layout. -/
theorem Hangs.exists_descends (h : t.Hangs q l) (hid : id ∈ l.ids) :
    ∃ path, t.Descends l.id path id := by
  induction l generalizing q with
  | panel i p =>
      rw [ids, List.mem_singleton] at hid
      exact ⟨[], hid ▸ .here _⟩
  | split i o r a b iha ihb =>
      have hs : t.split? i = some ⟨o, r, [a.id, b.id]⟩ := split?_eq_some_iff.2 ⟨q, h.1⟩
      rw [ids, List.mem_cons, List.mem_append] at hid
      rcases hid with hid | hid | hid
      · exact ⟨[], hid ▸ .here _⟩
      · obtain ⟨path, hpath⟩ := iha h.2.1 hid
        exact ⟨a.id :: path, .down hs (by simp) hpath⟩
      · obtain ⟨path, hpath⟩ := ihb h.2.2 hid
        exact ⟨b.id :: path, .down hs (by simp) hpath⟩

/-- Two ways down to a node are the same: they part nowhere, since the parts of a split share no
node. -/
theorem Hangs.descends_unique (h : t.Hangs q l) (hl : l.ids.Nodup) {path path' : List NodeId}
    (hpath : t.Descends l.id path id) (hpath' : t.Descends l.id path' id) : path = path' := by
  induction l generalizing q path path' with
  | panel i p =>
      have hnil : ∀ {path}, t.Descends i path id → path = [] := by
        intro path hpath
        cases hpath with
        | here => rfl
        | down hs =>
            obtain ⟨r, hr⟩ := split?_eq_some_iff.1 hs
            rw [Hangs, hr] at h
            simp at h
      rw [hnil hpath, hnil hpath']
  | split i o r a b iha ihb =>
      have ha : t.Hangs (some i) a := h.2.1
      have hb : t.Hangs (some i) b := h.2.2
      rw [ids, List.nodup_cons, List.mem_append, not_or, List.nodup_append] at hl
      obtain ⟨⟨hia, hib⟩, hal, hbl, hdisjoint⟩ := hl
      have hbelow : ∀ {c rest}, c = a ∨ c = b → t.Descends c.id rest id → id ≠ i := by
        rintro c rest (rfl | rfl) hrest rfl
        · exact hia (ha.mem_ids_of_descends hrest)
        · exact hib (hb.mem_ids_of_descends hrest)
      rcases descends_split h hpath with ⟨rfl, hlast⟩ | ⟨c, rest, hc, rfl, hrest⟩
      · rcases descends_split h hpath' with ⟨rfl, -⟩ | ⟨c', rest', hc', -, hrest'⟩
        · rfl
        · exact absurd hlast (hbelow hc' hrest')
      · rcases descends_split h hpath' with ⟨-, hlast⟩ | ⟨c', rest', hc', rfl, hrest'⟩
        · exact absurd hlast (hbelow hc hrest)
        · rcases hc with rfl | rfl <;> rcases hc' with rfl | rfl
          · rw [iha ha hal hrest hrest']
          · exact absurd rfl (hdisjoint _ (ha.mem_ids_of_descends hrest) _
              (hb.mem_ids_of_descends hrest'))
          · exact absurd rfl (hdisjoint _ (ha.mem_ids_of_descends hrest') _
              (hb.mem_ids_of_descends hrest))
          · rw [ihb hb hbl hrest hrest']

/-- Nodes that all belong to one layout, which hangs on the root, are well-formed. -/
theorem Hangs.wellFormed (h : t.Hangs none l) (hroot : t.root = l.id) (hl : l.ids.Nodup)
    (hall : ∀ {id}, t.contains id → id ∈ l.ids) : t.WellFormed where
  root := by
    rw [hroot]
    exact ⟨h.contains, h.parent?_eq⟩
  children := by
    intro id s hs
    obtain ⟨r, hr⟩ := split?_eq_some_iff.1 hs
    have hid : t.contains id := contains_of_link? hr
    obtain ⟨a, b, hchildren, hne, ha, hb⟩ := h.children hl (hall hid) hs
    refine ⟨a.id, b.id, hchildren, hne, ?_⟩
    rw [hchildren]
    intro child hchild
    simp only [List.mem_cons, List.not_mem_nil, or_false] at hchild
    rcases hchild with rfl | rfl
    · exact ⟨ha.contains, ha.parent?_eq⟩
    · exact ⟨hb.contains, hb.parent?_eq⟩
  reached := by
    intro id hid
    rw [hroot]
    obtain ⟨path, hpath⟩ := h.exists_descends (hall hid)
    exact ⟨path, hpath, fun path' hpath' => h.descends_unique hl hpath' hpath⟩

/-- A tree that holds a layout is well-formed. -/
theorem Holds.wellFormed (h : t.Holds l) : t.WellFormed :=
  h.hangs.wellFormed h.root h.nodup h.contains_iff.1

end Shape

end Tree

end Docking
