import Docking.Proofs.Layout.Trail
import Mathlib.Data.List.Flatten
import Mathlib.Data.List.Pairwise

/-!
# Tidy layouts

A panel *fits* if its active tab is one of its tabs and only an empty panel has none. A layout is
*tidy* if all its panels fit and no tab occurs twice. The operations on panels that edits are made
of keep panels fitting, and a panel of a layout can be looked at with what is before it and behind
it.

## Main results

* `Panel.fits_push`, `Panel.fits_without`: adding and removing a tab.
* `Panel.removeTab_eq`, `Panel.addTab_eq`: the operations of a panel in closed form.
* `Panel.eq_of_removeTab_none` and so on: an operation that fails leaves the panel as it is.
* `exists_panels_eq`: one panel of a layout, and what edits of it do to the list of panels.
-/

namespace Docking

namespace Panel

/-- The active tab is one of the tabs, and only a panel without tabs has none. -/
def Fits (p : Panel) : Prop :=
  match p.active with
  | some tab => tab ∈ p.tabIds
  | none => p.tabs = []

theorem fits_iff {p : Panel} :
    p.Fits ↔ (∀ tab, p.active = some tab → tab ∈ p.tabIds) ∧ (p.active = none → p.tabs = []) := by
  unfold Fits
  cases p.active <;> simp

theorem isEmpty_iff {p : Panel} : p.isEmpty ↔ p.tabIds = [] := by
  rw [isEmpty, List.isEmpty_iff, tabIds, List.map_eq_nil_iff]

theorem contains_iff {p : Panel} {tab : TabId} : p.contains tab ↔ tab ∈ p.tabIds := by
  simp only [contains, tabIds, List.any_eq_true, beq_iff_eq, List.mem_map]

theorem length_tabIds (p : Panel) : p.tabIds.length = p.tabs.length := List.length_map _

@[simp] theorem tabIds_single (entry : TabEntry) : (single entry).tabIds = [entry.id] := rfl

@[simp] theorem tabIds_empty : empty.tabIds = [] := rfl

@[simp] theorem tabIds_push (p : Panel) (entry : TabEntry) (activate : Bool) :
    (p.push entry activate).tabIds = p.tabIds ++ [entry.id] := by
  simp [push, tabIds]

theorem tabIds_without (p : Panel) (tab : TabId) :
    (p.without tab).tabIds = p.tabIds.filter fun t => t ≠ tab := by
  simp only [without, tabIds, List.filter_map]
  rfl

theorem mem_tabIds_without {p : Panel} {tab t : TabId} :
    t ∈ (p.without tab).tabIds ↔ t ∈ p.tabIds ∧ t ≠ tab := by
  rw [tabIds_without, List.mem_filter, decide_eq_true_eq]

theorem fits_empty : empty.Fits := rfl

theorem fits_single (entry : TabEntry) : (single entry).Fits := by
  simp [Fits, single, tabIds]

theorem fits_push {p : Panel} (h : p.Fits) (entry : TabEntry) (activate : Bool) :
    (p.push entry activate).Fits := by
  rw [fits_iff] at h ⊢
  rw [tabIds_push]
  by_cases ha : (activate || p.active.isNone) = true
  · have hactive : (p.push entry activate).active = some entry.id := if_pos ha
    rw [hactive]
    simp
  · have hactive : (p.push entry activate).active = p.active := if_neg ha
    rw [hactive]
    refine ⟨fun tab ht => List.mem_append_left _ (h.1 tab ht), fun hnone => ?_⟩
    simp [hnone] at ha

theorem fits_without {p : Panel} (h : p.Fits) (tab : TabId) : (p.without tab).Fits := by
  rw [fits_iff] at h ⊢
  by_cases ha : p.active = some tab
  · have hactive : (p.without tab).active = (p.without tab).tabs.head?.map TabEntry.id :=
      if_pos ha
    rw [hactive]
    refine ⟨fun t ht => ?_, fun hnone => ?_⟩
    · obtain ⟨entry, hentry, rfl⟩ := Option.map_eq_some_iff.1 ht
      exact List.mem_map.2 ⟨entry, List.mem_of_head? hentry, rfl⟩
    · rwa [Option.map_eq_none_iff, List.head?_eq_none_iff] at hnone
  · have hactive : (p.without tab).active = p.active := if_neg ha
    rw [hactive]
    refine ⟨fun t ht => mem_tabIds_without.2 ⟨h.1 t ht, ?_⟩, fun hnone => ?_⟩
    · rintro rfl
      exact ha ht
    · rw [without, h.2 hnone]
      rfl

/-! ## Calls that fail leave a panel as it is -/

theorem eq_of_removeTab_none {p q : Panel} {tab : TabId} (h : p.removeTab tab = (none, q)) :
    q = p := by
  rw [removeTab] at h
  split at h <;> cases h
  rfl

theorem eq_of_activate_false {p q : Panel} {tab : TabId} (h : p.activate tab = (false, q)) :
    q = p := by
  rw [activate] at h
  split at h <;> cases h
  rfl

theorem eq_of_cycle_none {p q : Panel} {forward : Bool} (h : p.cycle forward = (none, q)) :
    q = p := by
  rw [cycle] at h
  split at h <;> cases h
  rfl

/-! ## Calls that succeed -/

theorem fits_activate {p q : Panel} {tab : TabId} (h : p.activate tab = (true, q)) :
    q.Fits ∧ q.tabs = p.tabs := by
  rw [activate] at h
  split at h
  · next hcontains =>
    cases h
    exact ⟨contains_iff.1 hcontains, rfl⟩
  · cases h

theorem fits_cycle {p q : Panel} {forward : Bool} {tab : TabId}
    (h : p.cycle forward = (some tab, q)) : q.Fits ∧ q.tabs = p.tabs := by
  rw [cycle] at h
  split at h
  · cases h
  · next entry hentry =>
    cases h
    exact ⟨List.mem_map.2 ⟨entry, List.mem_of_getElem? hentry, rfl⟩, rfl⟩

/-- A tab that is added under a new name goes to the end. -/
theorem addTab_eq {p : Panel} {entry : TabEntry} (h : entry.id ∉ p.tabIds) (activate : Bool) :
    p.addTab entry activate = (.ok (), p.push entry activate) := by
  rw [addTab, if_neg fun hc => h (contains_iff.1 hc), push]

/-- A tab of a panel can be shown. -/
theorem activate_eq {p : Panel} {tab : TabId} (h : tab ∈ p.tabIds) :
    p.activate tab = (true, { p with active := some tab }) :=
  if_pos (contains_iff.2 h)

private theorem eraseP_eq_filter {ts : List TabEntry} (h : (ts.map TabEntry.id).Nodup)
    (tab : TabId) : ts.eraseP (fun t => t.id == tab) = ts.filter fun t => t.id ≠ tab := by
  induction ts with
  | nil => rfl
  | cons t ts ih =>
      rw [List.map_cons, List.nodup_cons] at h
      by_cases ht : t.id = tab
      · have hrest : ts.filter (fun t => decide (t.id ≠ tab)) = ts := by
          rw [List.filter_eq_self]
          intro s hs
          simp only [decide_eq_true_eq]
          intro e
          exact h.1 (List.mem_map.2 ⟨s, hs, e.trans ht.symm⟩)
        rw [List.eraseP_cons_of_pos (by simpa using ht),
          List.filter_cons_of_neg (by simpa using ht), hrest]
      · rw [List.eraseP_cons_of_neg (by simpa using ht),
          List.filter_cons_of_pos (by simpa using ht), ih h.2]

/-- A tab of a panel can be taken out. -/
theorem removeTab_eq {p : Panel} {tab : TabId} (hmem : tab ∈ p.tabIds) (h : p.tabIds.Nodup) :
    ∃ entry, entry ∈ p.tabs ∧ entry.id = tab ∧ p.removeTab tab = (some entry, p.without tab) := by
  obtain ⟨e, he, hid⟩ := List.mem_map.1 hmem
  obtain ⟨entry, hentry⟩ : ∃ entry, p.tab? tab = some entry := by
    rw [tab?, ← Option.isSome_iff_exists, List.find?_isSome]
    exact ⟨e, he, by simpa using hid⟩
  refine ⟨entry, List.mem_of_find?_eq_some hentry, ?_, ?_⟩
  · simpa using List.find?_some hentry
  · rw [removeTab, hentry]
    simp only [eraseP_eq_filter h, without]

theorem isEmpty_without_iff {p : Panel} {tab : TabId} (h : p.tabIds.Nodup)
    (hmem : tab ∈ p.tabIds) : (p.without tab).isEmpty ↔ p.tabIds = [tab] := by
  rw [isEmpty_iff, tabIds_without]
  constructor
  · intro he
    rw [List.filter_eq_nil_iff] at he
    have hall : ∀ t ∈ p.tabIds, t = tab := by simpa using he
    cases hids : p.tabIds with
    | nil => simp [hids] at hmem
    | cons t ts =>
        have ht : t = tab := hall t (by simp [hids])
        have hts : ts = [] := by
          rw [List.eq_nil_iff_forall_not_mem]
          intro s hs
          rw [hids, List.nodup_cons] at h
          exact h.1 (by rw [ht, ← hall s (by simp [hids, hs])]; exact hs)
        rw [ht, hts]
  · intro he
    simp [he]

end Panel

namespace Layout

/-- All panels fit, and no tab occurs twice. -/
structure Tidy (l : Layout) : Prop where
  fits : ∀ x ∈ l.panels, x.2.Fits
  nodup : l.tabIds.Nodup

/-- A panel, what is before it and behind it, and what the edits of the panel do to the list. -/
theorem exists_panels_eq {l : Layout} (h : l.ids.Nodup) {id : NodeId} {p : Panel}
    (hp : (id, p) ∈ l.panels) :
    ∃ pre post, l.panels = pre ++ (id, p) :: post ∧ (∀ x ∈ pre ++ post, x.1 ≠ id) ∧
      (∀ f, (l.graft id f).panels = pre ++ (f p).panels ++ post) ∧
      (id ≠ l.id → (l.remove id).panels = pre ++ post) := by
  obtain ⟨cs, rfl, hid⟩ := exists_trail h hp
  have hpanels : (plug cs (panel id p)).panels = before cs ++ (id, p) :: after cs := by
    rw [panels_plug, List.append_assoc]
    rfl
  refine ⟨before cs, after cs, hpanels, ?_, ?_, ?_⟩
  · intro x hx e
    have hmap := nodup_panels h
    rw [hpanels, List.map_append, List.map_cons, List.nodup_middle, List.nodup_cons,
      ← List.map_append] at hmap
    exact hmap.1 (List.mem_map.2 ⟨x, hx, e⟩)
  · intro f
    rw [graft_plug_panel hid, panels_plug]
  · intro hne
    cases cs with
    | nil => exact absurd rfl hne
    | cons c cs =>
        rw [remove_plug_panel hid, panels_plug, before, after]
        cases c.first <;> simp

theorem Tidy.nodup_panel {l : Layout} (h : l.Tidy) {x : NodeId × Panel} (hx : x ∈ l.panels) :
    x.2.tabIds.Nodup :=
  (List.nodup_flatMap.1 h.nodup).1 x hx

/-- A tab is in one panel. -/
theorem Tidy.shows_unique {l : Layout} (h : l.Tidy) {i j : NodeId} {tab : TabId}
    (hi : l.Shows i tab) (hj : l.Shows j tab) : i = j := by
  obtain ⟨p, hp, hpt⟩ := hi
  obtain ⟨r, hr, hrt⟩ := hj
  by_contra hne
  have hpair := (List.nodup_flatMap.1 h.nodup).2
  have hpr : (i, p) ≠ (j, r) := fun e => hne (congrArg Prod.fst e)
  have : Std.Symm (Function.onFun List.Disjoint fun x : NodeId × Panel => x.2.tabIds) :=
    ⟨fun _ _ hd _ hb ha => hd ha hb⟩
  exact hpair.forall hp hr hpr hpt hrt

/-! ## Membership after an edit -/

section Edits

variable {l : Layout} {id : NodeId} {p : Panel} {tab : TabId}

theorem mem_panels_graft (h : l.ids.Nodup) (hp : (id, p) ∈ l.panels) {f : Panel → Layout}
    {x : NodeId × Panel} :
    x ∈ (l.graft id f).panels ↔ x ∈ l.panels ∧ x.1 ≠ id ∨ x ∈ (f p).panels := by
  obtain ⟨pre, post, hl, hne, hgraft, -⟩ := exists_panels_eq h hp
  rw [hgraft, hl]
  simp only [List.mem_append, List.mem_cons]
  constructor
  · rintro ((hx | hx) | hx)
    · exact .inl ⟨.inl hx, hne x (List.mem_append_left _ hx)⟩
    · exact .inr hx
    · exact .inl ⟨.inr (.inr hx), hne x (List.mem_append_right _ hx)⟩
  · rintro (⟨hx | rfl | hx, hid⟩ | hx)
    · exact .inl (.inl hx)
    · exact absurd rfl hid
    · exact .inr hx
    · exact .inl (.inr hx)

theorem mem_panels_remove (h : l.ids.Nodup) (hp : (id, p) ∈ l.panels) (hid : id ≠ l.id)
    {x : NodeId × Panel} : x ∈ (l.remove id).panels ↔ x ∈ l.panels ∧ x.1 ≠ id := by
  obtain ⟨pre, post, hl, hne, -, hremove⟩ := exists_panels_eq h hp
  rw [hremove hid, hl]
  simp only [List.mem_append, List.mem_cons]
  constructor
  · rintro (hx | hx)
    · exact ⟨.inl hx, hne x (List.mem_append_left _ hx)⟩
    · exact ⟨.inr (.inr hx), hne x (List.mem_append_right _ hx)⟩
  · rintro ⟨hx | rfl | hx, hxid⟩
    · exact .inl hx
    · exact absurd rfl hxid
    · exact .inr hx

/-- A panel that is not empty survives pruning, and pruning makes no panel. -/
theorem mem_panels_pruned {x : NodeId × Panel} (hx : x.2.isEmpty = false) :
    x ∈ l.pruned.panels ↔ x ∈ l.panels := by
  rcases l.panels_pruned with ⟨-, h⟩ | ⟨-, hsub, hall⟩
  · rw [h, List.mem_filter]
    simp [hx]
  · constructor
    · exact fun h => hsub.subset h
    · intro h
      rw [hall x h] at hx
      cases hx

theorem has_graft (h : l.ids.Nodup) (hp : (id, p) ∈ l.panels) {f : Panel → Layout} {j : NodeId}
    {entry : TabEntry} :
    (l.graft id f).Has j entry ↔ l.Has j entry ∧ j ≠ id ∨ (f p).Has j entry := by
  constructor
  · rintro ⟨q, hq, he⟩
    rcases (mem_panels_graft h hp).1 hq with ⟨hq, hne⟩ | hq
    · exact .inl ⟨⟨q, hq, he⟩, hne⟩
    · exact .inr ⟨q, hq, he⟩
  · rintro (⟨⟨q, hq, he⟩, hne⟩ | ⟨q, hq, he⟩)
    · exact ⟨q, (mem_panels_graft h hp).2 (.inl ⟨hq, hne⟩), he⟩
    · exact ⟨q, (mem_panels_graft h hp).2 (.inr hq), he⟩

theorem not_isEmpty_of_mem {p : Panel} {tab : TabId} (h : tab ∈ p.tabIds) : p.isEmpty = false := by
  cases he : p.isEmpty with
  | false => rfl
  | true =>
      rw [Panel.isEmpty_iff] at he
      simp [he] at h

theorem has_pruned {j : NodeId} {entry : TabEntry} : l.pruned.Has j entry ↔ l.Has j entry := by
  have hfull {q : Panel} (he : entry ∈ q.tabs) : q.isEmpty = false :=
    not_isEmpty_of_mem (List.mem_map_of_mem he)
  constructor
  · rintro ⟨q, hq, he⟩
    exact ⟨q, (mem_panels_pruned (hfull he)).1 hq, he⟩
  · rintro ⟨q, hq, he⟩
    exact ⟨q, (mem_panels_pruned (hfull he)).2 hq, he⟩

/-- A tab that a panel has is one of its tabs. -/
theorem Has.mem {entry : TabEntry} (hnodup : l.ids.Nodup) (h : l.Has id entry)
    (hp : (id, p) ∈ l.panels) : entry ∈ p.tabs := by
  obtain ⟨q, hq, he⟩ := h
  rwa [panel_unique hnodup hp hq]

/-! ## What stays tidy -/

/-- New contents for a panel keep a layout tidy if their tabs were in the panel, or nowhere. -/
theorem tidy_graft (ht : l.Tidy) (h : l.ids.Nodup) (hp : (id, p) ∈ l.panels) {f : Panel → Layout}
    (hf : (f p).Tidy) (htabs : ∀ t ∈ (f p).tabIds, t ∈ p.tabIds ∨ t ∉ l.tabIds) :
    (l.graft id f).Tidy := by
  refine { fits := fun x hx => ?_, nodup := ?_ }
  · rcases (mem_panels_graft h hp).1 hx with ⟨hx, -⟩ | hx
    · exact ht.fits x hx
    · exact hf.fits x hx
  · obtain ⟨pre, post, hl, -, hgraft, -⟩ := exists_panels_eq h hp
    have hnodup := ht.nodup
    have hall : ∀ t, t ∈ (pre ++ post).flatMap (fun x => x.2.tabIds) → t ∈ l.tabIds := by
      intro t
      rw [tabIds, hl]
      simp only [List.flatMap_append, List.flatMap_cons, List.mem_append]
      rintro (h | h)
      · exact .inl h
      · exact .inr (.inr h)
    have hmiddle (q : Layout) : ((pre ++ q.panels ++ post).flatMap fun x => x.2.tabIds).Perm
        (q.tabIds ++ (pre ++ post).flatMap fun x => x.2.tabIds) := by
      rw [List.flatMap_append, List.flatMap_append, List.flatMap_append, ← List.append_assoc]
      exact List.perm_append_comm.append_right _
    have hold : l.tabIds.Perm (p.tabIds ++ (pre ++ post).flatMap fun x => x.2.tabIds) := by
      have := hmiddle (.panel id p)
      rw [panels, List.append_assoc, List.singleton_append, ← hl] at this
      simpa [tabIds, panels] using this
    rw [hold.nodup_iff, List.nodup_append] at hnodup
    obtain ⟨-, hrest, hdisjoint⟩ := hnodup
    rw [tabIds, hgraft, (hmiddle (f p)).nodup_iff, List.nodup_append]
    refine ⟨hf.nodup, hrest, ?_⟩
    rintro t htf u hu rfl
    rcases htabs t htf with hp | hnot
    · exact hdisjoint t hp t hu rfl
    · exact hnot (hall t hu)

theorem tidy_of_sublist {m : Layout} (h : l.Tidy) (hm : m.panels.Sublist l.panels) : m.Tidy where
  fits := fun x hx => h.fits x (hm.subset hx)
  nodup := h.nodup.sublist (hm.flatMap fun x => x.2.tabIds)

theorem tidy_panel (id : NodeId) {p : Panel} (hfits : p.Fits) (h : p.tabIds.Nodup) :
    (panel id p).Tidy where
  fits := fun x hx => by
    rw [panels, List.mem_singleton] at hx
    rwa [hx]
  nodup := by simpa [tabIds, panels] using h

/-- No two panels are empty. -/
def LoneEmpty (l : Layout) : Prop :=
  ∀ x ∈ l.panels, ∀ y ∈ l.panels, x.2.isEmpty → y.2.isEmpty → x.1 = y.1

theorem loneEmpty_pruned (l : Layout) : l.pruned.LoneEmpty := by
  intro x hx y hy hex hey
  have hpruned := eq_panel_of_mem_pruned hx hex
  rw [hpruned, panels, List.mem_singleton] at hy
  rw [hy]

/-- No panel besides the topmost node is empty. -/
def Filled (l : Layout) : Prop := ∀ x ∈ l.panels, x.2.isEmpty → x.1 = l.id

theorem Filled.eq_of_isEmpty (hl : l.Filled) (h : l.ids.Nodup) {x y : NodeId × Panel}
    (hx : x ∈ l.panels) (he : x.2.isEmpty) (hy : y ∈ l.panels) : y = x :=
  eq_of_mem_panels_top h hx (hl x hx he) hy

end Edits

end Layout

end Docking
