import Docking.Proofs.Layout.Tidy
import Docking.Proofs.Tree.Holds
import Docking.Tree.Validity

/-!
# The check of a tree that holds a layout

On a tree that holds a tidy layout the check has only one rule left to look at: a panel below a
split is not empty. It passes exactly if the layout is filled.

## Main results

* `surveyBelow_ok`, `surveyBelow_error`: what the walk over a part of the layout comes to.
* `Holds.check_ok`, `Holds.check_error`: what the check says.
-/

namespace Docking

namespace Tree

open Layout hiding id

section Survey

variable {t : Tree} {q : Option NodeId} {l : Layout} {depth : Nat}

theorem activeFits_iff {p : Panel} : activeFits p ↔ p.Fits := by
  unfold activeFits Panel.Fits
  cases p.active with
  | none => exact List.isEmpty_iff
  | some tab => exact Panel.contains_iff

theorem surveyTabs_eq {tabs met : List TabId} (hnodup : tabs.Nodup) (hnew : ∀ t ∈ tabs, t ∉ met) :
    surveyTabs met tabs = .ok (tabs.reverse ++ met) := by
  induction tabs generalizing met with
  | nil => rfl
  | cons tab rest ih =>
      rw [List.nodup_cons] at hnodup
      have hrest : ∀ t ∈ rest, t ∉ tab :: met := by
        intro t ht hm
        rcases List.mem_cons.1 hm with rfl | hm
        · exact hnodup.1 ht
        · exact hnew t (List.mem_cons_of_mem _ ht) hm
      rw [surveyTabs, if_neg (hnew tab (List.mem_cons_self ..)), ih hnodup.2 hrest]
      simp

/-- A walk over a split goes to the second part and then to the first one. -/
private theorem surveyBelow_split {id : NodeId} {o : Orientation} {r : Float32} {a b : Layout}
    (h : t.Hangs q (.split id o r a b)) (seen : Survey) :
    t.surveyBelow (depth + 1) id seen =
      (t.surveyBelow depth b.id ⟨id :: seen.nodes, seen.tabs⟩).bind (t.surveyBelow depth a.id) := by
  obtain ⟨hid, ha, hb⟩ := h
  obtain ⟨node, hnode, -, hbody⟩ := exists_node hid
  obtain ⟨bodyA, hbodyA⟩ := ha.link
  obtain ⟨bodyB, hbodyB⟩ := hb.link
  have hstray : t.strayChild? id ⟨o, r, [a.id, b.id]⟩ = none := by
    simp [strayChild?, parent?_eq, hbodyA, hbodyB]
  simp only [surveyBelow, hnode, hbody, hstray, List.length_cons, List.length_nil]
  show (t.surveyBelow depth b.id ⟨id :: seen.nodes, seen.tabs⟩ >>= fun s =>
    t.surveyBelow depth a.id s >>= pure) = _
  simp only [bind_pure]
  rfl

/-- The parts of a tidy split are tidy and share no tab. -/
private theorem tidy_split {id : NodeId} {o : Orientation} {r : Float32} {a b : Layout}
    (h : (Layout.split id o r a b).Tidy) :
    a.Tidy ∧ b.Tidy ∧ ∀ tab ∈ a.tabIds, tab ∉ b.tabIds := by
  have hpanels : (Layout.split id o r a b).panels = a.panels ++ b.panels := rfl
  have hnodup := h.nodup
  rw [tabIds_split, List.nodup_append] at hnodup
  refine ⟨tidy_of_sublist h ?_, tidy_of_sublist h ?_, fun tab hta htb => ?_⟩
  · exact hpanels ▸ List.sublist_append_left ..
  · exact hpanels ▸ List.sublist_append_right ..
  · exact hnodup.2.2 tab hta tab htb rfl

/-- A walk over a layout in which no panel but the root is empty meets all its nodes and tabs. -/
theorem surveyBelow_ok (h : t.Hangs q l) (hdepth : l.height ≤ depth) (ht : l.Tidy) (seen : Survey)
    (hnew : ∀ tab ∈ l.tabIds, tab ∉ seen.tabs)
    (hfilled : ∀ x ∈ l.panels, x.2.isEmpty → x.1 = t.root) :
    ∃ s, t.surveyBelow depth l.id seen = .ok s ∧
      (∀ j, j ∈ s.nodes ↔ j ∈ l.ids ∨ j ∈ seen.nodes) ∧
      ∀ tab, tab ∈ s.tabs ↔ tab ∈ l.tabIds ∨ tab ∈ seen.tabs := by
  induction l generalizing q depth seen with
  | panel id p =>
      obtain ⟨node, hnode, -, hbody⟩ := exists_node h
      obtain ⟨d, rfl⟩ := Nat.exists_eq_add_of_le' hdepth
      have htabIds : (Layout.panel id p).tabIds = p.tabIds := by simp [tabIds, panels]
      have hmem : (id, p) ∈ (Layout.panel id p).panels := by simp [panels]
      have hempty : (p.isEmpty && decide (id ≠ t.root)) = false := by
        cases he : p.isEmpty with
        | false => rfl
        | true => simpa using hfilled _ hmem he
      have htabs : surveyTabs seen.tabs p.tabIds = .ok (p.tabIds.reverse ++ seen.tabs) :=
        surveyTabs_eq (ht.nodup_panel hmem) (htabIds ▸ hnew)
      refine ⟨⟨id :: seen.nodes, p.tabIds.reverse ++ seen.tabs⟩, ?_, ?_, ?_⟩
      · simp only [height, id_panel, surveyBelow, hnode, hbody, surveyPanel, hempty,
          activeFits_iff.2 (ht.fits _ hmem), htabs]
        rfl
      · intro j
        rw [List.mem_cons, ids, List.mem_singleton]
      · intro tab
        rw [htabIds, List.mem_append, List.mem_reverse]
  | split id o r a b iha ihb =>
      obtain ⟨d, rfl⟩ := Nat.exists_eq_add_of_le' (Nat.le_trans (Nat.le_add_left 1 _) hdepth)
      have hdepth : max a.height b.height + 1 ≤ d + 1 := hdepth
      have hda : a.height ≤ d := by omega
      have hdb : b.height ≤ d := by omega
      obtain ⟨hta, htb, hdisjoint⟩ := tidy_split ht
      simp only [tabIds_split, List.mem_append] at hnew
      obtain ⟨s, hs, hsn, hst⟩ := ihb h.2.2 hdb htb ⟨id :: seen.nodes, seen.tabs⟩
        (fun tab htab => hnew tab (.inr htab))
        (fun x hx => hfilled x (List.mem_append_right _ hx))
      have hnewA : ∀ tab ∈ a.tabIds, tab ∉ s.tabs := fun tab htab hm =>
        ((hst tab).1 hm).elim (hdisjoint tab htab) (hnew tab (.inl htab))
      obtain ⟨u, hu, hun, hut⟩ := iha h.2.1 hda hta s hnewA
        (fun x hx => hfilled x (List.mem_append_left _ hx))
      refine ⟨u, ?_, ?_, ?_⟩
      · rw [id_split, surveyBelow_split h, hs]
        exact hu
      · intro j
        rw [hun, hsn, ids, List.mem_cons, List.mem_cons, List.mem_append]
        tauto
      · intro tab
        rw [hut, hst, tabIds_split, List.mem_append, or_assoc]

/-- A walk over a layout stops at a panel that is empty and not the root. -/
theorem surveyBelow_error (h : t.Hangs q l) (hdepth : l.height ≤ depth) (ht : l.Tidy)
    (seen : Survey) (hnew : ∀ tab ∈ l.tabIds, tab ∉ seen.tabs)
    (hempty : ∃ x ∈ l.panels, x.2.isEmpty ∧ x.1 ≠ t.root) :
    ∃ id, t.surveyBelow depth l.id seen = .error (.emptyPanel id) := by
  induction l generalizing q depth seen with
  | panel id p =>
      obtain ⟨node, hnode, -, hbody⟩ := exists_node h
      obtain ⟨d, rfl⟩ := Nat.exists_eq_add_of_le' hdepth
      obtain ⟨x, hx, he, hroot⟩ := hempty
      rw [panels, List.mem_singleton] at hx
      subst hx
      have hfault : (p.isEmpty && decide (id ≠ t.root)) = true := by
        rw [Bool.and_eq_true, decide_eq_true_eq]
        exact ⟨he, hroot⟩
      refine ⟨id, ?_⟩
      simp only [height, id_panel, surveyBelow, hnode, hbody, surveyPanel, hfault, if_true]
  | split id o r a b iha ihb =>
      obtain ⟨d, rfl⟩ := Nat.exists_eq_add_of_le' (Nat.le_trans (Nat.le_add_left 1 _) hdepth)
      have hdepth : max a.height b.height + 1 ≤ d + 1 := hdepth
      have hda : a.height ≤ d := by omega
      have hdb : b.height ≤ d := by omega
      obtain ⟨hta, htb, hdisjoint⟩ := tidy_split ht
      simp only [tabIds_split, List.mem_append] at hnew
      have hnewB : ∀ tab ∈ b.tabIds, tab ∉ seen.tabs := fun tab htab => hnew tab (.inr htab)
      rw [id_split, surveyBelow_split h]
      by_cases hb : ∃ x ∈ b.panels, x.2.isEmpty ∧ x.1 ≠ t.root
      · obtain ⟨j, hj⟩ := ihb h.2.2 hdb htb ⟨id :: seen.nodes, seen.tabs⟩ hnewB hb
        exact ⟨j, by rw [hj]; rfl⟩
      · -- the walk comes through the second part, so the empty panel is in the first one
        have hfilled : ∀ x ∈ b.panels, x.2.isEmpty → x.1 = t.root := by
          intro x hx he
          by_contra hne
          exact hb ⟨x, hx, he, hne⟩
        obtain ⟨s, hs, -, hst⟩ := surveyBelow_ok h.2.2 hdb htb ⟨id :: seen.nodes, seen.tabs⟩ hnewB
          hfilled
        have hnewA : ∀ tab ∈ a.tabIds, tab ∉ s.tabs := fun tab htab hm =>
          ((hst tab).1 hm).elim (hdisjoint tab htab) (hnew tab (.inl htab))
        have ha : ∃ x ∈ a.panels, x.2.isEmpty ∧ x.1 ≠ t.root := by
          obtain ⟨x, hx, hx'⟩ := hempty
          rcases List.mem_append.1 hx with hx | hx
          · exact ⟨x, hx, hx'⟩
          · exact absurd ⟨x, hx, hx'⟩ hb
        rw [hs]
        exact iha h.2.1 hda hta s hnewA ha

/-! ## The check -/

private theorem parent?_top (h : t.Hangs none l) : t.parent? l.id = none := by
  obtain ⟨body, hl⟩ := h.link
  rw [parent?_eq, hl]
  rfl

/-- The check passes if the nodes all belong to one layout, which hangs on the root, and no panel
besides the root is empty. -/
theorem Hangs.check_ok (h : t.Hangs none l) (hroot : t.root = l.id) (hl : l.ids.Nodup)
    (hall : ∀ {id}, t.contains id → id ∈ l.ids) (ht : l.Tidy) (hfilled : l.Filled) :
    t.check = .ok () := by
  have hdepth : l.height ≤ t.size + 1 := by
    have := l.height_le_length_ids
    have := h.length_ids_le hl
    omega
  obtain ⟨s, hs, hnodes, -⟩ := surveyBelow_ok h hdepth ht ⟨[], []⟩ (by simp) (hroot ▸ hfilled)
  have horphan : t.nodes.keys.find? (fun j => decide (j ∉ s.nodes)) = none := by
    rw [List.find?_eq_none]
    intro j hj
    have hcontains : t.contains j := Table.mem_keys_iff.1 hj
    simpa using (hnodes j).2 (.inl (hall hcontains))
  unfold check
  rw [hroot, parent?_top h, hs]
  simp only [horphan]
  rfl

/-- The check of a tree passes if no panel besides the root is empty. -/
theorem Holds.check_ok (h : t.Holds l) (ht : l.Tidy) (hfilled : l.Filled) : t.check = .ok () :=
  h.hangs.check_ok h.root h.nodup h.contains_iff.1 ht hfilled

/-- The check of a tree reports an empty panel if one besides the root is empty. -/
theorem Holds.check_error (h : t.Holds l) (ht : l.Tidy) (hempty : ¬ l.Filled) :
    ∃ id, t.check = .error (.emptyPanel id) := by
  have hempty : ∃ x ∈ l.panels, x.2.isEmpty ∧ x.1 ≠ t.root := by
    rw [h.root]
    simpa [Filled] using hempty
  obtain ⟨id, hid⟩ := surveyBelow_error h.hangs (Nat.le_succ_of_le h.height_le) ht ⟨[], []⟩
    (by simp) hempty
  refine ⟨id, ?_⟩
  unfold check
  rw [h.root, parent?_top h.hangs, hid]
  rfl

end Survey

end Tree

end Docking
