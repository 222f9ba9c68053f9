import Docking.Proofs.Layout.Tidy

/-!
# How a layout changes

A dock changes its layout in three ways: a tab joins a panel, a tab gets a panel of its own beside
another one, or a tab leaves its panel. Each change is described by what is shown afterwards, and
each keeps a layout tidy.

## Main results

* `has_join`, `has_splitOff`, `has_vacate`: what is in which panel after a change.
* `shows_of_has`, `shows_vacate`: what is shown then.
* `tidy_join`, `tidy_splitOff`, `tidy_vacate`: a tidy layout stays tidy.
* `mem_panels_of_mem_vacate`, `mem_panels_vacate`: the panels that are left when a tab leaves.
* `vacate_eq_drop`: where no panel besides the topmost node is empty, a tab that leaves is dropped.
-/

namespace Docking

namespace Layout

/-! ## Definitions -/

/-- The layout after a tab has joined a panel. -/
def join (l : Layout) (target : NodeId) (entry : TabEntry) (activate : Bool) : Layout :=
  l.graft target fun p => panel target (p.push entry activate)

/-- The layout after a tab has got a panel `new` of its own in a new split `id`, beside `target`. -/
def splitOff (l : Layout) (target id new : NodeId) (o : Orientation) (first : Bool)
    (entry : TabEntry) : Layout :=
  l.graft target fun p => beside id o first (panel new (.single entry)) (panel target p)

/-- The layout after a panel has got other contents. -/
def touch (l : Layout) (target : NodeId) (q : Panel) : Layout :=
  l.graft target fun _ => panel target q

/-- The layout after a panel has got other contents: a panel that is empty now is removed, unless it
is the topmost node. -/
def refill (l : Layout) (target : NodeId) (p : Panel) : Layout :=
  if p.isEmpty && decide (target ≠ l.id) then l.remove target
  else l.touch target p

/-- The layout after a tab has left a panel, which has the contents `p` now. All empty panels go as
well, also those that were there before. -/
def vacate (l : Layout) (target : NodeId) (p : Panel) : Layout := (l.refill target p).pruned

section Change

variable {l : Layout} {target : NodeId} {p : Panel} {entry : TabEntry}

/-! ## A tab joins a panel -/

theorem shows_panel {id j : NodeId} {p : Panel} {tab : TabId} :
    (panel id p).Shows j tab ↔ j = id ∧ tab ∈ p.tabIds := by
  constructor
  · rintro ⟨q, hq, ht⟩
    rw [panels, List.mem_singleton, Prod.mk.injEq] at hq
    exact ⟨hq.1, hq.2 ▸ ht⟩
  · rintro ⟨rfl, ht⟩
    exact ⟨p, by simp [panels], ht⟩

theorem has_panel {id j : NodeId} {p : Panel} {x : TabEntry} :
    (panel id p).Has j x ↔ j = id ∧ x ∈ p.tabs := by
  constructor
  · rintro ⟨q, hq, hx⟩
    rw [panels, List.mem_singleton, Prod.mk.injEq] at hq
    exact ⟨hq.1, hq.2 ▸ hx⟩
  · rintro ⟨rfl, hx⟩
    exact ⟨p, by simp [panels], hx⟩

theorem has_join (h : l.ids.Nodup) (hp : (target, p) ∈ l.panels) {activate : Bool} {j : NodeId}
    {x : TabEntry} :
    (l.join target entry activate).Has j x ↔ l.Has j x ∨ j = target ∧ x = entry := by
  rw [join, has_graft h hp, has_panel, Panel.push, List.mem_append, List.mem_singleton]
  constructor
  · rintro (⟨hx, -⟩ | ⟨rfl, hx | hx⟩)
    · exact .inl hx
    · exact .inl ⟨p, hp, hx⟩
    · exact .inr ⟨rfl, hx⟩
  · rintro (hx | ⟨rfl, hx⟩)
    · by_cases hj : j = target
      · subst hj
        exact .inr ⟨rfl, .inl (hx.mem h hp)⟩
      · exact .inl ⟨hx, hj⟩
    · exact .inr ⟨rfl, .inr hx⟩

/-- Where one more tab is in a panel, one more tab is shown. -/
theorem shows_of_has {m : Layout} {place : NodeId}
    (hm : ∀ {j x}, m.Has j x ↔ l.Has j x ∨ j = place ∧ x = entry) {j : NodeId} {tab : TabId} :
    m.Shows j tab ↔ l.Shows j tab ∨ j = place ∧ tab = entry.id := by
  simp only [shows_iff_has, hm, or_and_right, exists_or, and_assoc, exists_and_left,
    exists_eq_left, eq_comm (a := tab)]

theorem tidy_join (ht : l.Tidy) (h : l.ids.Nodup) (hp : (target, p) ∈ l.panels)
    (hnew : entry.id ∉ l.tabIds) (activate : Bool) : (l.join target entry activate).Tidy := by
  have hnewPanel : entry.id ∉ p.tabIds := fun hm => hnew (mem_tabIds.2 ⟨target, p, hp, hm⟩)
  have hfits := Panel.fits_push (ht.fits _ hp) entry activate
  refine tidy_graft ht h hp (tidy_panel target hfits ?_) ?_
  · rw [Panel.tabIds_push, List.nodup_append]
    refine ⟨ht.nodup_panel hp, by simp, ?_⟩
    rintro t htab u hu rfl
    rw [List.mem_singleton] at hu
    exact hnewPanel (hu ▸ htab)
  · intro t htab
    have htab : t ∈ p.tabIds ∨ t = entry.id := by simpa [tabIds, panels] using htab
    rcases htab with htab | rfl
    · exact .inl htab
    · exact .inr hnew

theorem isEmpty_push (p : Panel) (entry : TabEntry) (activate : Bool) :
    (p.push entry activate).isEmpty = false := by
  simp [Panel.push, Panel.isEmpty]

theorem loneEmpty_join (hl : l.LoneEmpty) (h : l.ids.Nodup) (hp : (target, p) ∈ l.panels)
    {activate : Bool} : (l.join target entry activate).LoneEmpty := by
  have hold : ∀ x ∈ (l.join target entry activate).panels, x.2.isEmpty → x ∈ l.panels := by
    intro x hx he
    rcases (mem_panels_graft h hp).1 hx with ⟨hx, -⟩ | hx
    · exact hx
    · rw [panels, List.mem_singleton] at hx
      rw [hx, isEmpty_push] at he
      cases he
  exact fun x hx y hy hex hey => hl x (hold x hx hex) y (hold y hy hey) hex hey

/-! ## Another tab of a panel becomes active -/

theorem mem_panels_touch (h : l.ids.Nodup) (hp : (target, p) ∈ l.panels) {q : Panel}
    {x : NodeId × Panel} :
    x ∈ (l.touch target q).panels ↔ x ∈ l.panels ∧ x.1 ≠ target ∨ x = (target, q) := by
  rw [touch, mem_panels_graft h hp, panels, List.mem_singleton]

theorem has_touch (h : l.ids.Nodup) (hp : (target, p) ∈ l.panels) {q : Panel}
    (hq : q.tabs = p.tabs) {j : NodeId} {x : TabEntry} :
    (l.touch target q).Has j x ↔ l.Has j x := by
  rw [touch, has_graft h hp, has_panel, hq]
  constructor
  · rintro (⟨hx, -⟩ | ⟨rfl, hx⟩)
    · exact hx
    · exact ⟨p, hp, hx⟩
  · intro hx
    by_cases hj : j = target
    · subst hj
      exact .inr ⟨rfl, hx.mem h hp⟩
    · exact .inl ⟨hx, hj⟩

theorem shows_touch (h : l.ids.Nodup) (hp : (target, p) ∈ l.panels) {q : Panel}
    (hq : q.tabs = p.tabs) {j : NodeId} {tab : TabId} :
    (l.touch target q).Shows j tab ↔ l.Shows j tab := by
  simp only [shows_iff_has, has_touch h hp hq]

theorem tidy_touch (ht : l.Tidy) (h : l.ids.Nodup) (hp : (target, p) ∈ l.panels) {q : Panel}
    (hfits : q.Fits) (hq : q.tabs = p.tabs) : (l.touch target q).Tidy := by
  have hids : q.tabIds = p.tabIds := by rw [Panel.tabIds, hq, Panel.tabIds]
  refine tidy_graft ht h hp (tidy_panel target hfits (hids ▸ ht.nodup_panel hp)) ?_
  intro t htab
  have htab : t ∈ q.tabIds := by simpa [tabIds, panels] using htab
  exact .inl (hids ▸ htab)

/-- Every panel stands for a panel that was there, with as many tabs. -/
private theorem exists_mem_of_mem_touch (h : l.ids.Nodup) (hp : (target, p) ∈ l.panels) {q : Panel}
    (hq : q.tabs = p.tabs) {x : NodeId × Panel} (hx : x ∈ (l.touch target q).panels) :
    ∃ y ∈ l.panels, y.1 = x.1 ∧ y.2.isEmpty = x.2.isEmpty := by
  rcases (mem_panels_touch h hp).1 hx with ⟨hx, -⟩ | rfl
  · exact ⟨x, hx, rfl, rfl⟩
  · exact ⟨(target, p), hp, rfl, by rw [Panel.isEmpty, Panel.isEmpty, hq]⟩

theorem loneEmpty_touch (hl : l.LoneEmpty) (h : l.ids.Nodup) (hp : (target, p) ∈ l.panels)
    {q : Panel} (hq : q.tabs = p.tabs) : (l.touch target q).LoneEmpty := by
  intro x hx y hy hex hey
  obtain ⟨x', hx', hxname, hxempty⟩ := exists_mem_of_mem_touch h hp hq hx
  obtain ⟨y', hy', hyname, hyempty⟩ := exists_mem_of_mem_touch h hp hq hy
  rw [← hxname, ← hyname]
  exact hl x' hx' y' hy' (hxempty.trans hex) (hyempty.trans hey)

theorem filled_touch (hl : l.Filled) (h : l.ids.Nodup) (hp : (target, p) ∈ l.panels) {q : Panel}
    (hq : q.tabs = p.tabs) : (l.touch target q).Filled := by
  intro x hx he
  obtain ⟨y, hy, hname, hempty⟩ := exists_mem_of_mem_touch h hp hq hx
  rw [touch, id_graft fun _ => id_panel target q, ← hname]
  exact hl y hy (hempty.trans he)

/-! ## A tab gets a panel of its own -/

theorem mem_panels_beside {id : NodeId} {o : Orientation} {first : Bool} {a b : Layout}
    {x : NodeId × Panel} : x ∈ (beside id o first a b).panels ↔ x ∈ a.panels ∨ x ∈ b.panels := by
  unfold beside
  split
  · rw [panels, List.mem_append]
  · rw [panels, List.mem_append, or_comm]

/-- A panel that has joined the layout has a name of its own, and no other panel is different. -/
theorem mem_panels_splitOff (h : l.ids.Nodup) (hp : (target, p) ∈ l.panels) {id new : NodeId}
    {o : Orientation} {first : Bool} {entry : TabEntry} {x : NodeId × Panel} :
    x ∈ (l.splitOff target id new o first entry).panels ↔
      x ∈ l.panels ∧ x.1 ≠ target ∨ x = (new, .single entry) ∨ x = (target, p) := by
  rw [splitOff, mem_panels_graft h hp, mem_panels_beside, panels, panels, List.mem_singleton,
    List.mem_singleton]

theorem tabIds_beside (id : NodeId) (o : Orientation) (first : Bool) (a b : Layout) :
    (beside id o first a b).tabIds.Perm (a.tabIds ++ b.tabIds) := by
  unfold beside tabIds
  split
  · rw [panels, List.flatMap_append]
  · rw [panels, List.flatMap_append]
    exact List.perm_append_comm

theorem has_splitOff (h : l.ids.Nodup) (hp : (target, p) ∈ l.panels) {id new : NodeId}
    {o : Orientation} {first : Bool} {j : NodeId} {x : TabEntry} :
    (l.splitOff target id new o first entry).Has j x ↔ l.Has j x ∨ j = new ∧ x = entry := by
  have hbeside : (beside id o first (panel new (.single entry)) (panel target p)).Has j x ↔
      (j = new ∧ x = entry) ∨ j = target ∧ x ∈ p.tabs := by
    have hsingle : x = entry ↔ x ∈ (Panel.single entry).tabs := List.mem_singleton.symm
    rw [hsingle, ← has_panel, ← has_panel]
    constructor
    · rintro ⟨q, hq, hx⟩
      exact (mem_panels_beside.1 hq).imp (fun hq => ⟨q, hq, hx⟩) fun hq => ⟨q, hq, hx⟩
    · rintro (⟨q, hq, hx⟩ | ⟨q, hq, hx⟩)
      · exact ⟨q, mem_panels_beside.2 (.inl hq), hx⟩
      · exact ⟨q, mem_panels_beside.2 (.inr hq), hx⟩
  rw [splitOff, has_graft h hp, hbeside]
  constructor
  · rintro (⟨hx, -⟩ | hn | ⟨rfl, hx⟩)
    · exact .inl hx
    · exact .inr hn
    · exact .inl ⟨p, hp, hx⟩
  · rintro (hx | hn)
    · by_cases hj : j = target
      · subst hj
        exact .inr (.inr ⟨rfl, hx.mem h hp⟩)
      · exact .inl ⟨hx, hj⟩
    · exact .inr (.inl hn)

theorem tidy_splitOff (ht : l.Tidy) (h : l.ids.Nodup) (hp : (target, p) ∈ l.panels)
    (hnew : entry.id ∉ l.tabIds) (id new : NodeId) (o : Orientation) (first : Bool) :
    (l.splitOff target id new o first entry).Tidy := by
  have hnewPanel : entry.id ∉ p.tabIds := fun hm => hnew (mem_tabIds.2 ⟨target, p, hp, hm⟩)
  have htabs := tabIds_beside id o first (panel new (.single entry)) (panel target p)
  have hparts : (panel new (.single entry)).tabIds ++ (panel target p).tabIds =
      entry.id :: p.tabIds := by
    simp [tabIds, panels]
  rw [hparts] at htabs
  refine tidy_graft ht h hp { fits := fun x hx => ?_, nodup := ?_ } fun t htab => ?_
  · rcases mem_panels_beside.1 hx with hx | hx <;> rw [panels, List.mem_singleton] at hx <;> rw [hx]
    · exact Panel.fits_single entry
    · exact ht.fits _ hp
  · rw [htabs.nodup_iff, List.nodup_cons]
    exact ⟨hnewPanel, ht.nodup_panel hp⟩
  · rw [htabs.mem_iff, List.mem_cons] at htab
    rcases htab with rfl | htab
    · exact .inr hnew
    · exact .inl htab

theorem loneEmpty_splitOff (hl : l.LoneEmpty) (h : l.ids.Nodup) (hp : (target, p) ∈ l.panels)
    {id new : NodeId} {o : Orientation} {first : Bool} :
    (l.splitOff target id new o first entry).LoneEmpty := by
  have hold : ∀ x ∈ (l.splitOff target id new o first entry).panels, x.2.isEmpty →
      x ∈ l.panels := by
    intro x hx he
    rcases (mem_panels_graft h hp).1 hx with ⟨hx, -⟩ | hx
    · exact hx
    · rcases mem_panels_beside.1 hx with hx | hx <;> rw [panels, List.mem_singleton] at hx
      · rw [hx] at he
        cases he
      · rw [hx]
        exact hp
  exact fun x hx y hy hex hey => hl x (hold x hx hex) y (hold y hy hey) hex hey

/-! ## A tab leaves its panel -/

theorem tidy_refill (ht : l.Tidy) (h : l.ids.Nodup) (hp : (target, p) ∈ l.panels) (tab : TabId) :
    (l.refill target (p.without tab)).Tidy := by
  unfold refill
  split
  · next he =>
    simp only [Bool.and_eq_true, decide_eq_true_eq] at he
    obtain ⟨pre, post, hl, -, -, hremove⟩ := exists_panels_eq h hp
    refine tidy_of_sublist ht ?_
    rw [hremove he.2, hl]
    exact (List.sublist_cons_self _ _).append_left _
  · refine tidy_graft ht h hp (tidy_panel target (Panel.fits_without (ht.fits _ hp) tab) ?_) ?_
    · rw [Panel.tabIds_without]
      exact (ht.nodup_panel hp).filter _
    · intro t htab
      have htab : t ∈ (p.without tab).tabIds := by simpa [tabIds, panels] using htab
      exact .inl (Panel.mem_tabIds_without.1 htab).1

/-- A tidy layout stays tidy when a tab leaves. -/
theorem tidy_vacate (ht : l.Tidy) (h : l.ids.Nodup) (hp : (target, p) ∈ l.panels) (tab : TabId) :
    (l.vacate target (p.without tab)).Tidy :=
  tidy_of_sublist (tidy_refill ht h hp tab) (panels_pruned_sublist _)

/-- A tab that leaves its panel is in no panel, and all others stay. -/
theorem has_vacate (ht : l.Tidy) (h : l.ids.Nodup) (hp : (target, p) ∈ l.panels) {tab : TabId}
    (htab : tab ∈ p.tabIds) {j : NodeId} {x : TabEntry} :
    (l.vacate target (p.without tab)).Has j x ↔ l.Has j x ∧ x.id ≠ tab := by
  have hother : ∀ {i}, l.Has i x → x.id = tab → i = target := fun hi hid =>
    ht.shows_unique (shows_iff_has.2 ⟨x, hi, hid⟩) ⟨p, hp, htab⟩
  have hwithout : x ∈ (p.without tab).tabs ↔ x ∈ p.tabs ∧ x.id ≠ tab := by
    rw [Panel.without, List.mem_filter, decide_eq_true_eq]
  rw [vacate, has_pruned, refill]
  split
  · next he =>
    simp only [Bool.and_eq_true, decide_eq_true_eq] at he
    have honly := (Panel.isEmpty_without_iff (ht.nodup_panel hp) htab).1 he.1
    constructor
    · rintro ⟨q, hq, hx⟩
      obtain ⟨hq, hne⟩ := (mem_panels_remove h hp he.2).1 hq
      exact ⟨⟨q, hq, hx⟩, fun hid => hne (hother ⟨q, hq, hx⟩ hid)⟩
    · rintro ⟨⟨q, hq, hx⟩, hne⟩
      refine ⟨q, (mem_panels_remove h hp he.2).2 ⟨hq, ?_⟩, hx⟩
      rintro rfl
      have hid : x.id ∈ p.tabIds := panel_unique h hq hp ▸ List.mem_map_of_mem hx
      rw [honly, List.mem_singleton] at hid
      exact hne hid
  · rw [touch, has_graft h hp, has_panel, hwithout]
    constructor
    · rintro (⟨hx, hj⟩ | ⟨rfl, hpx, hne⟩)
      · exact ⟨hx, fun hid => hj (hother hx hid)⟩
      · exact ⟨⟨p, hp, hpx⟩, hne⟩
    · rintro ⟨hx, hne⟩
      by_cases hj : j = target
      · subst hj
        exact .inr ⟨rfl, hx.mem h hp, hne⟩
      · exact .inl ⟨hx, hj⟩

/-- A tab that leaves its panel is shown nowhere, and all others stay. -/
theorem shows_vacate (ht : l.Tidy) (h : l.ids.Nodup) (hp : (target, p) ∈ l.panels) {tab : TabId}
    (htab : tab ∈ p.tabIds) {j : NodeId} {t : TabId} :
    (l.vacate target (p.without tab)).Shows j t ↔ l.Shows j t ∧ t ≠ tab := by
  simp only [shows_iff_has, has_vacate ht h hp htab]
  constructor
  · rintro ⟨x, ⟨hx, hne⟩, rfl⟩
    exact ⟨⟨x, hx, rfl⟩, hne⟩
  · rintro ⟨⟨x, hx, rfl⟩, hne⟩
    exact ⟨x, ⟨hx, hne⟩, rfl⟩

theorem notMem_tabIds_vacate (ht : l.Tidy) (h : l.ids.Nodup) (hp : (target, p) ∈ l.panels)
    {tab : TabId} (htab : tab ∈ p.tabIds) : tab ∉ (l.vacate target (p.without tab)).tabIds := by
  intro hm
  obtain ⟨j, hj⟩ := mem_tabIds.1 hm
  exact ((shows_vacate ht h hp htab).1 hj).2 rfl

/-- The panels after a panel has got other contents, before empty ones are removed. -/
private theorem mem_panels_refill (h : l.ids.Nodup) (hp : (target, p) ∈ l.panels) {q : Panel}
    {x : NodeId × Panel} :
    x ∈ (l.refill target q).panels ↔ x ∈ l.panels ∧ x.1 ≠ target ∨
      x = (target, q) ∧ (q.isEmpty && decide (target ≠ l.id)) = false := by
  rw [refill]
  split
  · next he =>
    rw [mem_panels_remove h hp (by simpa using (Bool.and_eq_true_iff.1 he).2), he]
    simp
  · next he =>
    rw [mem_panels_touch h hp, Bool.eq_false_iff.2 he]
    simp

/-- A panel is there after a tab has left only if it was there, or is the one that the tab left. -/
theorem mem_panels_of_mem_vacate (h : l.ids.Nodup) (hp : (target, p) ∈ l.panels) {q : Panel}
    {x : NodeId × Panel} (hx : x ∈ (l.vacate target q).panels) :
    x ∈ l.panels ∧ x.1 ≠ target ∨ x = (target, q) := by
  rcases (mem_panels_refill h hp).1 ((panels_pruned_sublist _).subset hx) with hx | ⟨hx, -⟩
  · exact .inl hx
  · exact .inr hx

/-- A panel with tabs stays when a tab leaves another panel, or leaves it with other tabs. -/
theorem mem_panels_vacate (h : l.ids.Nodup) (hp : (target, p) ∈ l.panels) {q : Panel}
    {x : NodeId × Panel} (hx : x ∈ l.panels ∧ x.1 ≠ target ∨ x = (target, q))
    (he : x.2.isEmpty = false) : x ∈ (l.vacate target q).panels := by
  rw [vacate, mem_panels_pruned he, mem_panels_refill h hp]
  rcases hx with hx | rfl
  · exact .inl hx
  · exact .inr ⟨rfl, by simp [he]⟩

theorem filled_pruned (l : Layout) : l.pruned.Filled := by
  intro x hx he
  rw [eq_panel_of_mem_pruned hx he]
  rfl

/-- An empty panel that is still there when a tab has left is all that is left. -/
private theorem eq_of_shows_of_mem_vacate (ht : l.Tidy) (h : l.ids.Nodup)
    (hp : (target, p) ∈ l.panels) {tab : TabId} (htab : tab ∈ p.tabIds) {place : NodeId}
    {q r : Panel} (hq : (place, q) ∈ l.panels) (he : q.isEmpty)
    (hr : (place, r) ∈ (l.vacate target (p.without tab)).panels) {j : NodeId} {t : TabId}
    (hs : l.Shows j t) : t = tab := by
  by_contra hne
  have hold : (place, r) ∈ l.panels := by
    rcases mem_panels_of_mem_vacate h hp hr with ⟨hr, -⟩ | hr
    · exact hr
    · obtain ⟨rfl, -⟩ := Prod.mk.inj hr
      rw [panel_unique h hq hp, not_isEmpty_of_mem htab] at he
      cases he
  obtain rfl : r = q := panel_unique h hold hq
  have hshown := (shows_vacate ht h hp htab).2 ⟨hs, hne⟩
  rw [vacate, eq_panel_of_mem_pruned hr he, shows_panel] at hshown
  rw [Panel.isEmpty_iff] at he
  simp [he] at hshown

/-- Where the last tab leaves, an empty panel that was there stays: it is the only one besides the
panel of the tab. -/
private theorem exists_mem_vacate_of_isEmpty (ht : l.Tidy) (h : l.ids.Nodup) (hlone : l.LoneEmpty)
    (hp : (target, p) ∈ l.panels) {tab : TabId} (htab : tab ∈ p.tabIds) {place : NodeId} {q : Panel}
    (hq : (place, q) ∈ l.panels) (he : q.isEmpty) (honly : ∀ j t, l.Shows j t → t = tab) :
    ∃ r, (place, r) ∈ (l.vacate target (p.without tab)).panels := by
  obtain ⟨x, hx⟩ := List.exists_mem_of_ne_nil _ (panels_ne_nil (l.vacate target (p.without tab)))
  rcases (mem_panels_refill h hp).1 ((panels_pruned_sublist _).subset hx) with
    ⟨hold, hne⟩ | ⟨rfl, hstay⟩
  · have hempty : x.2.isEmpty := by
      rw [Panel.isEmpty_iff, List.eq_nil_iff_forall_not_mem]
      intro t htx
      have hs : l.Shows x.1 t := ⟨x.2, hold, htx⟩
      rw [honly _ t hs] at hs
      exact hne (ht.shows_unique hs ⟨p, hp, htab⟩)
    have hname : x.1 = place := hlone x hold _ hq hempty he
    exact ⟨x.2, by rw [← hname]; exact hx⟩
  · -- the panel of the tab could only stay as the whole layout, and there is the empty one
    have hempty : (p.without tab).isEmpty := by
      rw [Panel.isEmpty_iff, List.eq_nil_iff_forall_not_mem]
      intro t htp
      obtain ⟨htp, hne⟩ := Panel.mem_tabIds_without.1 htp
      exact hne (honly target t ⟨p, hp, htp⟩)
    have hroot : target = l.id := by simpa [hempty] using hstay
    obtain ⟨-, rfl⟩ := Prod.mk.inj (eq_of_mem_panels_top h hp hroot hq)
    rw [not_isEmpty_of_mem htab] at he
    cases he

/-- A panel is still there when a tab has left another one, or has left it with other tabs, if it
holds a tab. An empty panel is still there only if no tab is left at all. -/
theorem exists_mem_vacate_iff (ht : l.Tidy) (h : l.ids.Nodup) (hlone : l.LoneEmpty)
    (hp : (target, p) ∈ l.panels) {tab : TabId} (htab : tab ∈ p.tabIds) {place : NodeId} {q : Panel}
    (hq : (place, q) ∈ l.panels) (hself : place = target → p.tabIds ≠ [tab]) :
    (∃ r, (place, r) ∈ (l.vacate target (p.without tab)).panels) ↔
      q.isEmpty = false ∨ ∀ j t, l.Shows j t → t = tab := by
  constructor
  · rintro ⟨r, hr⟩
    cases he : q.isEmpty with
    | false => exact .inl rfl
    | true => exact .inr fun j t hs => eq_of_shows_of_mem_vacate ht h hp htab hq he hr hs
  · intro hor
    cases he : q.isEmpty with
    | false =>
        by_cases hplace : place = target
        · refine ⟨p.without tab, mem_panels_vacate h hp (.inr (by rw [hplace])) ?_⟩
          rw [Bool.eq_false_iff]
          intro hempty
          exact hself hplace ((Panel.isEmpty_without_iff (ht.nodup_panel hp) htab).1 hempty)
        · exact ⟨q, mem_panels_vacate h hp (.inl ⟨hq, hplace⟩) he⟩
    | true =>
        rcases hor with hne | honly
        · rw [he] at hne
          cases hne
        · exact exists_mem_vacate_of_isEmpty ht h hlone hp htab hq he honly

/-- A tab that leaves takes all empty panels with it. -/
theorem filled_vacate (l : Layout) (target : NodeId) (p : Panel) : (l.vacate target p).Filled :=
  filled_pruned _

/-- A tab of one panel is nowhere on the trail of the panel. -/
theorem misses_of_tidy {cs : List Crumb} (ht : (plug cs (panel target p)).Tidy)
    (htarget : target ∉ trailIds cs) {tab : TabId} (htab : tab ∈ p.tabIds) : Misses cs tab := by
  have hshows : (plug cs (panel target p)).Shows target tab :=
    ⟨p, by simp [panels_plug, panels], htab⟩
  have habsent : ∀ c ∈ cs, tab ∉ c.sibling.tabIds := by
    intro c hc htc
    obtain ⟨j, q, hq, hqt⟩ := mem_tabIds.1 htc
    have hj : j = target := ht.shows_unique ⟨q, mem_panels_plug_of_mem hc hq _, hqt⟩ hshows
    subst hj
    exact htarget (mem_trailIds_of_mem hc (mem_ids_of_mem_panels hq))
  refine { absent := habsent, inactive := fun c hc x hx hactive => ?_ }
  have hfits := (Panel.fits_iff.1 (ht.fits x (mem_panels_plug_of_mem hc hx _))).1 tab hactive
  exact habsent c hc (mem_tabIds.2 ⟨x.1, x.2, hx, hfits⟩)

/-- Where no panel besides the topmost node is empty, a tab that leaves its panel is dropped from
the layout, and nothing else is different. -/
theorem vacate_eq_drop (ht : l.Tidy) (h : l.ids.Nodup) (hl : l.Filled)
    (hp : (target, p) ∈ l.panels) {tab : TabId} (htab : tab ∈ p.tabIds) :
    l.vacate target (p.without tab) = l.drop tab := by
  have hnone : target ≠ l.id → ∀ x ∈ l.panels, x.2.isEmpty = false := by
    intro hne x hx
    cases he : x.2.isEmpty with
    | false => rfl
    | true =>
        have hroot := hl x hx he
        rw [← hl.eq_of_isEmpty h hx he hp] at hroot
        exact absurd hroot hne
  have honly := Panel.isEmpty_without_iff (ht.nodup_panel hp) htab
  obtain ⟨cs, rfl, htarget⟩ := exists_trail h hp
  have hmisses := misses_of_tidy ht htarget htab
  cases cs with
  | nil =>
      rw [vacate, refill, if_neg (by simp [plug]), touch, graft_plug_panel htarget]
      rfl
  | cons c cs =>
      have hne : target ≠ (plug (c :: cs) (panel target p)).id := by
        intro e
        rw [e] at htarget
        exact htarget (id_plug_cons c cs _)
      have hnone := hnone hne
      rw [vacate, refill]
      by_cases he : (p.without tab).isEmpty
      · rw [if_pos (by simp [he, hne]), remove_plug_panel htarget,
          drop_plug_only hmisses (by simpa [isOnly] using honly.1 he)]
        refine pruned_eq_self fun x hx hx' => ?_
        have hx : x ∈ (plug (c :: cs) (panel target p)).panels := by
          have hremoved := mem_panels_remove h hp hne (x := x)
          rw [remove_plug_panel htarget] at hremoved
          exact (hremoved.1 hx).1
        simp [hnone x hx] at hx'
      · rw [if_neg (by simp [he]), touch, graft_plug_panel htarget,
          drop_plug hmisses (by simpa [isOnly] using fun e => he (honly.2 e))]
        refine pruned_eq_self fun x hx hx' => ?_
        have hgraft := mem_panels_graft h hp (f := fun _ => panel target (p.without tab)) (x := x)
        rw [graft_plug_panel htarget] at hgraft
        rcases hgraft.1 hx with ⟨hx, -⟩ | hx
        · simp [hnone x hx] at hx'
        · rw [panels, List.mem_singleton] at hx
          rw [hx] at hx'
          exact absurd hx' he

end Change

end Layout

end Docking
