import Docking.Proofs.Dock.Areas
import Docking.Proofs.Dock.Frame
import Docking.Proofs.Geometry.Arithmetic

/-!
# A tab lands where the hint shows

The hint over a zone of a panel is computed from the area of that panel alone. A drop on the zone
changes the layout, puts a split with an even share above the panel if the zone is an edge, and
gives every node its area again, from the viewport down. Both come to the same area, up to the sign
of a zero, wherever a half and what remains beside it are equal floats, which is the case for all
but infinite, undefined and tiny sizes. No panel besides the one that was aimed at gets another
area.

## Main definitions

* `Rect.HalvesEvenly`: half of the width and what remains of it are equal, and so for the height.
* `Dock.LandsIn`: where a tab is after it was docked, and what has happened to all other panels.

## Main results

* `Rect.halvesEvenly_of_le`: areas whose sides are not tiny halve evenly.
* `Layout.areaOf_graft`: what is put into the place of a panel divides the area of that panel.
* `Sound.landsIn`: a tab that lands at a zone has the area of the hint.
* `Reachable.lands_where_shown`: the same for a new tab, a floating tab, and a window that is
  dragged over the dock and dropped there.
-/

namespace Docking

/-! ## Areas and their halves -/

namespace Rect

/-- Half of the width and what remains of it are equal, and so for the height. -/
structure HalvesEvenly (r : Rect) : Prop where
  width : Docking.HalvesEvenly r.width
  height : Docking.HalvesEvenly r.height

/-- An area halves evenly if its sides are numbers, and none of them is tiny without being zero. -/
theorem halvesEvenly_of_le {r : Rect} {w h : ℚ} (hwidth : number? r.width = some w)
    (hw : w = 0 ∨ 2 ^ (-125 : ℤ) ≤ |w|) (hheight : number? r.height = some h)
    (hh : h = 0 ∨ 2 ^ (-125 : ℤ) ≤ |h|) : r.HalvesEvenly :=
  ⟨Docking.halvesEvenly_of_le hwidth hw, Docking.halvesEvenly_of_le hheight hh⟩

/-- Two areas have the same position and size, where zeros of different sign are the same. -/
structure Agree (r s : Rect) : Prop where
  x : Docking.Agree r.x s.x
  y : Docking.Agree r.y s.y
  width : Docking.Agree r.width s.width
  height : Docking.Agree r.height s.height

theorem Agree.refl (r : Rect) : r.Agree r := ⟨.refl _, .refl _, .refl _, .refl _⟩

/-- An area that holds a point has a size. -/
theorem fractions_isSome {r : Rect} {point : Point} (h : r.contains point) :
    (r.fractions point).isSome := by
  simp only [contains, Bool.and_eq_true, decide_eq_true_eq] at h
  obtain ⟨⟨⟨hleft, hright⟩, htop⟩, hbottom⟩ := h
  have hsize : ¬ (r.width ≤ 0 ∨ r.height ≤ 0) := by
    rintro (hwidth | hheight)
    · exact not_lt_add_of_nonpos hwidth hleft hright
    · exact not_lt_add_of_nonpos hheight htop hbottom
  rw [fractions, if_neg hsize]
  rfl

end Rect

section Halves

variable {w : Float32}

theorem HalvesEvenly.agree_half (h : HalvesEvenly w) : Agree (w * 0.5) (w / 2) :=
  Agree.symm (.inr h.half)

theorem HalvesEvenly.agree_rest (h : HalvesEvenly w) : Agree (w - w * 0.5) (w / 2) :=
  (Agree.symm (.inr h.rest)).trans h.agree_half

theorem clampShare_half : Split.clampShare 0.5 = 0.5 := by
  decide +kernel

/-- The new part of a panel that is split at an edge agrees with the hint over that edge. -/
theorem childRects_agree {r : Rect} (h : r.HalvesEvenly) {zone : Zone} {o : Orientation}
    (hzone : zone.orientation? = some o) (cs : List NodeId) :
    let areas := (Split.mk o 0.5 cs).childRects r
    (if zone.newFirst then areas.1 else areas.2).Agree (Indicator.ofZone r zone).rect := by
  cases zone <;> cases hzone <;>
    simp only [Split.childRects, clampShare_half, Zone.newFirst, Bool.false_eq_true, if_true,
      if_false, Rect.splitColumns, Rect.splitRows, Indicator.ofZone]
  case left => exact ⟨.refl _, .refl _, h.width.agree_half, .refl _⟩
  case right => exact ⟨h.width.agree_half.add_left r.x, .refl _, h.width.agree_rest, .refl _⟩
  case top => exact ⟨.refl _, .refl _, .refl _, h.height.agree_half⟩
  case bottom => exact ⟨.refl _, h.height.agree_half.add_left r.y, .refl _, h.height.agree_rest⟩

end Halves

/-! ## Areas in a changed layout -/

namespace Layout

section Graft

variable {l m : Layout} {target : NodeId} {p : Panel} {area r : Rect}

/-- What is put into the place of a panel divides the area of that panel, and all other nodes keep
theirs. -/
theorem areaOf_graft (hl : l.ids.Nodup) (hp : (target, p) ∈ l.panels) {f : Panel → Layout}
    (htarget : target ∈ (f p).ids) (hnew : ∀ j ∈ (f p).ids, j ∈ l.ids → j = target)
    (hr : l.areaOf area target = some r) (j : NodeId) :
    (l.graft target f).areaOf area j =
      if j ∈ (f p).ids then (f p).areaOf r j else l.areaOf area j := by
  induction l generalizing area with
  | panel id q =>
      rw [panels, List.mem_singleton] at hp
      cases hp
      rw [areaOf, if_pos rfl, Option.some_inj] at hr
      subst hr
      rw [graft, if_pos rfl]
      split
      · rfl
      · next hj =>
        rw [areaOf_of_notMem hj, areaOf, if_neg fun e : target = j => hj (e ▸ htarget)]
  | split id o ratio a b iha ihb =>
      obtain ⟨hid, ha, hb, hdisjoint⟩ := nodup_split hl
      have hne : j ∈ (f p).ids → id ≠ j := by
        rintro hj rfl
        have htop : id = target := hnew id hj (by simp [ids])
        rw [panels, List.mem_append] at hp
        rcases hp with hp | hp
        · exact hid.1 (htop ▸ mem_ids_of_mem_panels hp)
        · exact hid.2 (htop ▸ mem_ids_of_mem_panels hp)
      let areas := (Split.mk o ratio [a.id, b.id]).childRects area
      rw [panels, List.mem_append] at hp
      rcases hp with hp | hp
      · have hmem : target ∈ a.ids := mem_ids_of_mem_panels hp
        rw [areaOf_first hl area hmem] at hr
        have hgraft := iha ha hp (fun j hj hja => hnew j hj (by simp [ids, hja])) hr
        rw [graft, graft_of_notMem (hdisjoint target hmem)]
        show (if id = j then some area
          else ((a.graft target f).areaOf areas.1 j).or (b.areaOf areas.2 j)) = _
        by_cases hj : j ∈ (f p).ids
        · obtain ⟨rect, hrect⟩ := Option.isSome_iff_exists.1 (areaOf_isSome.2 hj)
          rw [hgraft, if_pos hj, if_neg (hne hj), hrect, Option.some_or, if_pos hj]
        · rw [hgraft, if_neg hj, if_neg hj]
          rfl
      · have hmem : target ∈ b.ids := mem_ids_of_mem_panels hp
        rw [areaOf_second hl area hmem] at hr
        have hgraft := ihb hb hp (fun j hj hjb => hnew j hj (by simp [ids, hjb])) hr
        have hmissing : target ∉ a.ids := fun hta => hdisjoint target hta hmem
        rw [graft, graft_of_notMem hmissing]
        show (if id = j then some area
          else (a.areaOf areas.1 j).or ((b.graft target f).areaOf areas.2 j)) = _
        by_cases hj : j ∈ (f p).ids
        · have hja : j ∉ a.ids := fun hja => hmissing (hnew j hj (by simp [ids, hja]) ▸ hja)
          rw [hgraft, if_pos hj, if_neg (hne hj), areaOf_of_notMem hja, Option.none_or, if_pos hj]
        · rw [hgraft, if_neg hj, if_neg hj]
          rfl

/-- Where a panel is put beside something, it gets its side of the area. -/
theorem areaOf_beside {id new : NodeId} {q : Panel} {rest : Layout} (hid : id ≠ new)
    (hnew : new ∉ rest.ids) (o : Orientation) (first : Bool) (r : Rect) :
    (beside id o first (panel new q) rest).areaOf r new =
      let areas := (Split.mk o 0.5 []).childRects r
      some (if first then areas.1 else areas.2) := by
  cases first with
  | true =>
      simp only [beside, if_true, areaOf, if_neg hid, Option.some_or]
      rfl
  | false =>
      simp only [beside, Bool.false_eq_true, if_false, areaOf, if_neg hid, if_true,
        areaOf_of_notMem hnew, Option.none_or]
      rfl

section Lands

variable {next : Nat} {entry : TabEntry} {activate : Bool} {zone : Zone} {place : NodeId}

/-- Other panels are there after a tab has landed exactly if they were before, with the same
contents. -/
theorem Lands.mem_panels_iff
    (h : l.Lands next entry activate (some ⟨target, zone⟩) place m) (hl : l.ids.Nodup)
    (hp : (target, p) ∈ l.panels) {x : NodeId × Panel} (htarget : x.1 ≠ target)
    (hplace : x.1 ≠ place) : x ∈ m.panels ↔ x ∈ l.panels := by
  have hsame : ∀ {f : Panel → Layout}, (∀ y ∈ (f p).panels, y.1 = target ∨ y.1 = place) →
      (x ∈ (l.graft target f).panels ↔ x ∈ l.panels) := by
    intro f hf
    rw [mem_panels_graft hl hp]
    constructor
    · rintro (⟨hx, -⟩ | hx)
      · exact hx
      · exact ((hf x hx).elim htarget hplace).elim
    · exact fun hx => .inl ⟨hx, htarget⟩
  cases h with
  | center hq => exact hsame (by simp [panels])
  | edge hq =>
      refine hsame fun y hy => ?_
      rw [mem_panels_beside, panels, panels, List.mem_singleton, List.mem_singleton] at hy
      rcases hy with rfl | rfl
      · exact .inr rfl
      · exact .inl rfl
  | fallback hq hgone => exact absurd hp (hgone _ rfl p)

/-- A tab that lands at a zone gets the area of the hint, and no other panel gets another area. -/
theorem Lands.areaOf_agree
    (h : l.Lands next entry activate (some ⟨target, zone⟩) place m) (hl : l.ids.Nodup)
    (hfresh : ∀ j ∈ l.ids, j.number < next) (hp : (target, p) ∈ l.panels)
    (hr : l.areaOf area target = some r) (heven : r.HalvesEvenly) :
    (∃ rect, m.areaOf area place = some rect ∧ rect.Agree (Indicator.ofZone r zone).rect) ∧
      ∀ j ∈ l.ids, j ≠ target → m.areaOf area j = l.areaOf area j := by
  have htarget : target ∈ l.ids := mem_ids_of_mem_panels hp
  cases h with
  | center hq hzone =>
      obtain rfl := Zone.eq_center hzone
      have hjoin := areaOf_graft hl hp (f := fun p => panel target (p.push entry true))
        (by simp [ids]) (by simp [ids]) hr
      refine ⟨⟨r, ?_, .refl r⟩, fun j hj hne => ?_⟩
      · rw [join, hjoin, if_pos (by simp [ids]), areaOf, if_pos rfl]
      · rw [join, hjoin, if_neg (by simp [ids, hne])]
  | @edge _ _ _ o hq hzone =>
      have hne : (⟨next⟩ : NodeId) ≠ target := by
        rintro rfl
        exact Nat.lt_irrefl _ (hfresh _ htarget)
      let added : Panel → Layout := fun p =>
        beside ⟨next + 1⟩ o zone.newFirst (panel ⟨next⟩ (.single entry)) (panel target p)
      have hids : ∀ j, j ∈ (added p).ids ↔ j = ⟨next + 1⟩ ∨ j = ⟨next⟩ ∨ j = target := fun j =>
        (Tree.ids_beside ⟨next + 1⟩ ⟨next⟩ target o zone.newFirst p (.single entry)).mem_iff.trans
          (by simp)
      have hnew : ∀ j ∈ (added p).ids, j ∈ l.ids → j = target := by
        intro j hj hjl
        have hlt := hfresh j hjl
        rcases (hids j).1 hj with rfl | rfl | rfl
        · exact absurd hlt (by simp)
        · exact absurd hlt (Nat.lt_irrefl _)
        · rfl
      have hsplit := areaOf_graft hl hp ((hids target).2 (by simp)) hnew hr
      refine ⟨⟨_, ?_, childRects_agree heven hzone []⟩, fun j hj hne' => ?_⟩
      · rw [splitOff, hsplit, if_pos ((hids _).2 (by simp))]
        exact areaOf_beside (by simp) (by simpa [ids] using hne) o zone.newFirst r
      · rw [splitOff, hsplit, if_neg fun hmem => hne' (hnew j hmem hj)]
  | fallback hq hgone => exact absurd hp (hgone _ rfl p)

end Lands

end Graft

end Layout

namespace Dock

open Layout hiding id

/-! ## Docks -/

/-- After the dock `d` has become `e` the tab is in a panel of the given area. No panel besides this
one and `target` has come, has gone or has got another area. -/
def LandsIn (d e : Dock) (tab : TabId) (target : NodeId) (area : Rect) : Prop :=
  ∃ place rect, e.tree.findTab tab = some place ∧ e.panelOf? tab = some place ∧
    e.tree.rect? place = some rect ∧ rect.Agree area ∧
    ∀ other, other ≠ target → other ≠ place →
      (other ∈ e.tree.panelIds ↔ other ∈ d.tree.panelIds) ∧
      (other ∈ d.tree.panelIds → e.tree.rect? other = d.tree.rect? other)

section Landing

variable {d e : Dock} {l m : Layout} {tab : TabId} {target place : NodeId} {r area : Rect}

/-- A tab is found in the panel that its item names. -/
theorem Sound.findTab_eq (h : d.Sound l) (tab : TabId) : d.tree.findTab tab = d.panelOf? tab := by
  have hfind := h.holds.findPanel?_eq fun _ p => p.contains tab
  rw [Tree.findTab, hfind]
  cases hfound : l.panels.find? fun x => x.2.contains tab with
  | some x =>
      have hmem : (x.1, x.2) ∈ l.panels := List.mem_of_find?_eq_some hfound
      have hcontains := List.find?_some (p := fun x : NodeId × Panel => x.2.contains tab) hfound
      exact (h.shown.2 ⟨x.2, hmem, Panel.contains_iff.1 hcontains⟩).symm
  | none =>
      cases hpanel : d.panelOf? tab with
      | none => rfl
      | some panel =>
          obtain ⟨p, hp, htab⟩ := h.exists_panel hpanel
          exact absurd (Panel.contains_iff.2 htab) (List.find?_eq_none.1 hfound _ hp)

theorem LandsIn.congr (h : d.LandsIn e tab target area) {f : Dock} (htree : f.tree = e.tree)
    (hitems : f.items = e.items) : d.LandsIn f tab target area := by
  have hpanel : f.panelOf? tab = e.panelOf? tab := by
    rw [panelOf?, panelOf?, item?, item?, hitems]
  rw [LandsIn, htree, hpanel]
  exact h

/-- A tab that lands at a zone has the area of the hint. -/
theorem Sound.landsIn (h : d.Sound l) (hsame : d.tree.relayout = d.tree) (he : e.Reachable)
    (hviewport : e.tree.viewport = d.tree.viewport) (hholds : e.tree.Holds m)
    {entry : TabEntry} {activate : Bool} {zone : Zone}
    (hlands : l.Lands d.tree.nextNode entry activate (some ⟨target, zone⟩) place m)
    (hplace : e.panelOf? entry.id = some place) (htarget : target ∈ d.tree.panelIds)
    (hr : d.tree.rect? target = some r) (heven : r.HalvesEvenly) :
    d.LandsIn e entry.id target (Indicator.ofZone r zone).rect := by
  obtain ⟨m', hm'⟩ := he.sound
  have hesame := he.relayout_eq
  rw [h.holds.panelIds_eq] at htarget
  obtain ⟨⟨i, p⟩, hp, rfl⟩ := List.mem_map.1 htarget
  rw [h.holds.rect?_of_relayout hsame (mem_ids_of_mem_panels hp)] at hr
  obtain ⟨⟨rect, hrect, hagree⟩, hothers⟩ := hlands.areaOf_agree h.nodup
    (fun _ => h.holds.lt_nextNode) hp hr heven
  refine ⟨place, rect, (hm'.findTab_eq entry.id).trans hplace, hplace, ?_, hagree, ?_⟩
  · have hmem : place ∈ m.ids := areaOf_isSome.1 (Option.isSome_of_mem hrect)
    rw [hholds.rect?_of_relayout hesame hmem, hviewport, hrect]
  · intro other htarget hplace
    have hpanels : other ∈ e.tree.panelIds ↔ other ∈ d.tree.panelIds := by
      rw [hholds.panelIds_eq, h.holds.panelIds_eq, List.mem_map, List.mem_map]
      constructor
      · rintro ⟨x, hx, rfl⟩
        exact ⟨x, (hlands.mem_panels_iff h.nodup hp htarget hplace).1 hx, rfl⟩
      · rintro ⟨x, hx, rfl⟩
        exact ⟨x, (hlands.mem_panels_iff h.nodup hp htarget hplace).2 hx, rfl⟩
    refine ⟨hpanels, fun hother => ?_⟩
    have hafter := hpanels.2 hother
    rw [h.holds.panelIds_eq] at hother
    rw [hholds.panelIds_eq] at hafter
    obtain ⟨x, hx, rfl⟩ := List.mem_map.1 hother
    obtain ⟨y, hy, hyx⟩ := List.mem_map.1 hafter
    have hmem : x.1 ∈ m.ids := hyx ▸ mem_ids_of_mem_panels hy
    rw [hholds.rect?_of_relayout hesame hmem, hviewport,
      hothers x.1 (mem_ids_of_mem_panels hx) htarget,
      h.holds.rect?_of_relayout hsame (mem_ids_of_mem_panels hx)]

/-! ## Drops -/

theorem Reachable.dockNew_landsIn (h : d.Reachable) (htarget : target ∈ d.tree.panelIds)
    (hr : d.tree.rect? target = some r) (heven : r.HalvesEvenly) (zone : Zone) (title : String)
    (surface : Surface) :
    d.LandsIn (d.dockNew title surface (some ⟨target, zone⟩)).2
      (d.dockNew title surface (some ⟨target, zone⟩)).1 target (Indicator.ofZone r zone).rect := by
  obtain ⟨l, hl⟩ := h.sound
  have he : (d.dockNew title surface (some ⟨target, zone⟩)).2.Reachable :=
    h.run [.dockNew title surface (some ⟨target, zone⟩)]
  have hviewport := (register_areaStep d title surface (some ⟨target, zone⟩) true).viewport
  obtain ⟨place, m, u, active, heq, hholds, -, hlands⟩ :=
    register_eq hl title surface (some ⟨target, zone⟩) true
  rw [dockNew] at he ⊢
  rw [heq] at he hviewport ⊢
  refine hl.landsIn h.relayout_eq he hviewport hholds hlands ?_ htarget hr heven
  exact panelOf?_eq_some_iff.2 ⟨_, (Table.get?_insert ..).trans (if_pos rfl), rfl⟩

theorem Reachable.dockFloating_landsIn (h : d.Reachable) (htarget : target ∈ d.tree.panelIds)
    (hr : d.tree.rect? target = some r) (heven : r.HalvesEvenly) (zone : Zone)
    (hfloating : (d.item? tab).any Item.isFloating) :
    d.LandsIn (d.dockFloating tab (some ⟨target, zone⟩)).2 tab target
      (Indicator.ofZone r zone).rect := by
  obtain ⟨l, hl⟩ := h.sound
  obtain ⟨i, hitem, hi⟩ := (Option.any_eq_true _ _).1 hfloating
  obtain ⟨window, surface, hplacement⟩ := Item.isFloating_iff.1 hi
  have he : (d.dockFloating tab (some ⟨target, zone⟩)).2.Reachable :=
    h.run [.dockFloating tab (some ⟨target, zone⟩)]
  have hviewport := (dockFloating_areaStep d tab (some ⟨target, zone⟩)).viewport
  obtain ⟨place, m, u, active, heq, hholds, -, hlands⟩ :=
    dockFloating_eq hl hitem hplacement (some ⟨target, zone⟩)
  rw [heq] at he hviewport ⊢
  refine hl.landsIn h.relayout_eq he hviewport hholds hlands ?_ htarget hr heven
  exact panelOf?_eq_some_iff.2 ⟨_, (Table.get?_insert ..).trans (if_pos rfl), rfl⟩

/-- A point over a panel hits one of its zones. -/
theorem hitTest_eq {point : Point} (hpoint : d.tree.panelAt point = some target) :
    ∃ r zone, target ∈ d.tree.panelIds ∧ d.tree.rect? target = some r ∧
      d.hitTest point = some (⟨target, zone⟩, r) := by
  have hcontains := List.find?_some
    (p := fun id => (d.tree.rect? id).any fun rect : Rect => rect.contains point) hpoint
  obtain ⟨r, hr, hin⟩ := (Option.any_eq_true _ _).1 hcontains
  obtain ⟨⟨fx, fy⟩, hfractions⟩ := Option.isSome_iff_exists.1 (Rect.fractions_isSome hin)
  refine ⟨r, .classify fx fy d.settings.edge, List.mem_of_find?_eq_some hpoint, hr, ?_⟩
  simp only [hitTest, hpoint, hr, hfractions, Option.map_some]

/-- A window that is dragged over a dock shows the hint for the zone under the pointer. -/
theorem externalOver_eq (hidle : d.gesture.all Gesture.isExternal) {point : Point} {zone : Zone}
    (hhit : d.hitTest point = some (⟨target, zone⟩, r)) :
    ∃ g, d.externalOver point = { d with gesture := some g }.emit .redraw ∧ g.isExternal ∧
      g.indicator = some (.ofZone r zone) := by
  unfold externalOver
  cases hgesture : d.gesture with
  | none =>
      simp only [hhit]
      exact ⟨_, rfl, rfl, rfl⟩
  | some g =>
      rw [hgesture, Option.all_some] at hidle
      simp only [hidle, if_true, hhit]
      exact ⟨_, rfl, hidle, rfl⟩

/-- A window that is dropped at a zone is gone, and its tab is docked there. -/
theorem dropWindow_eq (hdrag : d.externalDrag) {point : Point} {payload : Payload}
    {window : Window} (hwindow : payload.window = some window) {t : DropTarget}
    (hhit : d.hitTest point = some (t, r)) (tab : TabId) :
    ∃ cs, d.dropWindow payload (some tab) point =
      { (d.dropGesture.dockFloating tab (some t)).2 with outbox := cs } := by
  have hcalmed : d.dropGesture.dockFloating tab (some t) =
      ((d.dockFloating tab (some t)).1, (d.dockFloating tab (some t)).2.amid none []) :=
    dockFloating_amid d none [] tab (some t)
  rw [dropWindow_some d hwindow, if_pos hdrag, hhit, Option.map_some, hcalmed]
  exact ⟨_, rfl⟩

/-- A window is dragged over the dock and dropped, whichever of its tabs is found. -/
theorem Reachable.dropWindow_landsIn (h : d.Reachable) {point : Point} {payload : Payload}
    (hpoint : d.tree.panelAt point = some target) (hr : d.tree.rect? target = some r)
    (heven : r.HalvesEvenly) (hidle : d.gesture.all Gesture.isExternal)
    (hfinds : d.Finds payload (some tab)) :
    ∃ hint, (d.externalOver point).indicator? = some hint ∧
      d.LandsIn ((d.externalOver point).dropWindow payload (some tab) point) tab target
        hint.rect := by
  obtain ⟨window, i, hwindow, hitem, hi⟩ := hfinds
  obtain ⟨r', zone, htarget, hr', hhit⟩ := hitTest_eq hpoint
  obtain rfl : r = r' := Option.some.inj (hr.symm.trans hr')
  obtain ⟨g, hover, hg, hindicator⟩ := externalOver_eq hidle hhit
  have hfloating : (d.item? tab).any Item.isFloating := by
    rw [hitem]
    exact Item.isFloating_of_window? hi
  have hlands := h.dockFloating_landsIn htarget hr heven zone hfloating
  refine ⟨.ofZone r zone, ?_, ?_⟩
  · rw [hover]
    exact hindicator
  · -- the gesture and the queue do not matter for where the tab goes
    have hover' : (d.externalOver point).dropGesture.calm = d.calm := by
      rw [hover]
      rfl
    have hcalm := (calm_congr (fun d => (d.dockFloating tab (some ⟨target, zone⟩)).2)
      (fun d g cs => congrArg Prod.snd (dockFloating_amid d g cs tab _)) hover').2
    have hdrag : (d.externalOver point).externalDrag := by
      rw [hover]
      exact hg
    have hhit' : (d.externalOver point).hitTest point = some (⟨target, zone⟩, r) := by
      rw [hover]
      exact hhit
    obtain ⟨cs, hdrop⟩ := dropWindow_eq hdrag hwindow hhit' tab
    rw [hdrop]
    exact hlands.congr (congrArg Dock.tree hcalm :) (congrArg Dock.items hcalm :)

/-- A window that is dragged over the dock shows the same tab as before. -/
theorem findWindow_externalOver (d : Dock) (point : Point) :
    (d.externalOver point).findWindow = d.findWindow := by
  unfold externalOver
  split
  · rfl
  · split <;> rfl

/-- The hint over a zone of a panel is where a tab goes that is docked there, and the hint under a
window that is dragged over the dock is where its tab goes when it is dropped. -/
theorem Reachable.lands_where_shown (h : d.Reachable) (htarget : target ∈ d.tree.panelIds)
    (hr : d.tree.rect? target = some r) (heven : r.HalvesEvenly) :
    (∀ zone title surface,
      d.LandsIn (d.dockNew title surface (some ⟨target, zone⟩)).2
        (d.dockNew title surface (some ⟨target, zone⟩)).1 target (Indicator.ofZone r zone).rect) ∧
      (∀ zone tab, (d.item? tab).any Item.isFloating →
        d.LandsIn (d.dockFloating tab (some ⟨target, zone⟩)).2 tab target
          (Indicator.ofZone r zone).rect) ∧
      ∀ point payload tab, d.gesture.all Gesture.isExternal →
        d.tree.panelAt point = some target → payload.window.bind d.findWindow = some tab →
        ∃ hint, (d.externalOver point).indicator? = some hint ∧
          d.LandsIn ((d.externalOver point).externalDrop payload point) tab target hint.rect := by
  refine ⟨?_, ?_, ?_⟩
  · intro zone title surface
    exact h.dockNew_landsIn htarget hr heven zone title surface
  · intro zone tab hfloating
    exact h.dockFloating_landsIn htarget hr heven zone hfloating
  · intro point payload tab hidle hpoint hknown
    obtain ⟨l, hl⟩ := h.sound
    have hfinds : d.Finds payload (some tab) := hknown ▸ hl.finds payload
    rw [externalDrop, findWindow_externalOver, hknown]
    exact h.dropWindow_landsIn hpoint hr heven hidle hfinds

/-- Two tabs side by side, and a third one in a window. -/
def besideWindow : List Operation := [
  .setViewport (.atOrigin 80 40),
  .openTab "A" ⟨⟨1⟩, "p"⟩ true,
  .dockNew "B" ⟨⟨2⟩, "p"⟩ (some ⟨⟨1⟩, .right⟩),
  .openTab "C" ⟨⟨3⟩, "q"⟩ true,
  .floatTab ⟨3⟩,
  .attachWindow ⟨3⟩ ⟨"w"⟩]

/-- The left panel is 40 wide. A new tab at its lower edge gets the lower half, the floating tab at
its right edge the right half, and the window over its left edge the left half. -/
theorem besideWindow_lands :
    let d := (new .standard).run besideWindow
    let hovered := d.externalOver ⟨5, 20⟩
    d.tree.rect? ⟨1⟩ = some ⟨0, 0, 40, 40⟩ ∧
      d.LandsIn (d.dockNew "D" ⟨⟨4⟩, "p"⟩ (some ⟨⟨1⟩, .bottom⟩)).2 ⟨4⟩ ⟨1⟩ ⟨0, 20, 40, 20⟩ ∧
      d.LandsIn (d.dockFloating ⟨3⟩ (some ⟨⟨1⟩, .right⟩)).2 ⟨3⟩ ⟨1⟩ ⟨20, 0, 20, 40⟩ ∧
      hovered.indicator? = some ⟨⟨0, 0, 20, 40⟩, 0.5⟩ ∧
      d.LandsIn (hovered.externalDrop ⟨"q", some ⟨"w"⟩⟩ ⟨5, 20⟩) ⟨3⟩ ⟨1⟩ ⟨0, 0, 20, 40⟩ := by
  intro d hovered
  have hreachable : d.Reachable := ⟨.standard, besideWindow, rfl⟩
  have hpanel : (⟨1⟩ : NodeId) ∈ d.tree.panelIds := by decide +kernel
  have hrect : d.tree.rect? ⟨1⟩ = some ⟨0, 0, 40, 40⟩ := by decide +kernel
  have hside : number? 40 = some 40 := by decide +kernel
  have hlarge : (40 : ℚ) = 0 ∨ 2 ^ (-125 : ℤ) ≤ |(40 : ℚ)| := .inr (by norm_num)
  have heven : Rect.HalvesEvenly ⟨0, 0, 40, 40⟩ :=
    Rect.halvesEvenly_of_le hside hlarge hside hlarge
  have hbottom : (Indicator.ofZone ⟨0, 0, 40, 40⟩ .bottom).rect = ⟨0, 20, 40, 20⟩ := by
    decide +kernel
  have hright : (Indicator.ofZone ⟨0, 0, 40, 40⟩ .right).rect = ⟨20, 0, 20, 40⟩ := by
    decide +kernel
  have hover : hovered.indicator? = some ⟨⟨0, 0, 20, 40⟩, 0.5⟩ := by decide +kernel
  obtain ⟨hnew, hfloating, hwindow⟩ :=
    hreachable.lands_where_shown hpanel hrect heven
  refine ⟨hrect, ?_, ?_, hover, ?_⟩
  · exact hbottom ▸ hnew .bottom "D" ⟨⟨4⟩, "p"⟩
  · exact hright ▸ hfloating .right ⟨3⟩ (by decide +kernel)
  · obtain ⟨hint, hhint, hlands⟩ := hwindow ⟨5, 20⟩ ⟨"q", some ⟨"w"⟩⟩ ⟨3⟩ (by decide +kernel)
      (by decide +kernel) (by decide +kernel)
    rw [hover, Option.some_inj] at hhint
    subst hhint
    exact hlands

end Landing

end Dock

end Docking
