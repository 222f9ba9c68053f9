import Docking.Proofs.Layout.Change
import Docking.Zone

/-!
# Where a tab lands

A tab that is docked joins the panel of its target, or gets a panel beside it if the target is an
edge. Where the panel of the target is not in the layout, or there is no target, the tab joins a
panel that the dock chooses. `Layout.Lands` lists these three ways, with the new layout.

## Main results

* `Lands.has`, `Lands.shows`: the tab is in the panel where it has landed, and all others stay.
* `Lands.tidy`, `Lands.loneEmpty`: what is kept.
* `Lands.filled_iff`: only an empty panel whose edge is taken is an empty panel too many.
-/

namespace Docking

/-- All zones but the centre are edges. -/
theorem Zone.eq_center {zone : Zone} (h : zone.orientation? = none) : zone = .center := by
  cases zone <;> simp [orientation?] at h ⊢

namespace Layout

/-- The tab `entry` that is docked at `target` lands in `panel`, and the layout is `m` then. The
names of new nodes start from `next`. -/
inductive Lands (l : Layout) (next : Nat) (entry : TabEntry) (activate : Bool) :
    Option DropTarget → NodeId → Layout → Prop
  | center {panel : NodeId} {p : Panel} {zone : Zone} (hp : (panel, p) ∈ l.panels)
      (hzone : zone.orientation? = none) :
      Lands l next entry activate (some ⟨panel, zone⟩) panel (l.join panel entry true)
  | edge {panel : NodeId} {p : Panel} {zone : Zone} {o : Orientation} (hp : (panel, p) ∈ l.panels)
      (hzone : zone.orientation? = some o) :
      Lands l next entry activate (some ⟨panel, zone⟩) ⟨next⟩
        (l.splitOff panel ⟨next + 1⟩ ⟨next⟩ o zone.newFirst entry)
  | fallback {target : Option DropTarget} {panel : NodeId} {p : Panel}
      (hp : (panel, p) ∈ l.panels) (hgone : ∀ t ∈ target, ∀ q, (t.panel, q) ∉ l.panels) :
      Lands l next entry activate target panel (l.join panel entry activate)

/-- A target that is an edge of an empty panel. -/
def SplitsEmpty (l : Layout) (target : Option DropTarget) : Prop :=
  ∃ t ∈ target, t.zone ≠ .center ∧ ∃ p, (t.panel, p) ∈ l.panels ∧ p.isEmpty

section Landing

variable {l m : Layout} {next : Nat} {entry : TabEntry} {activate : Bool}
  {target : Option DropTarget} {panel : NodeId}

theorem Lands.has (h : l.Lands next entry activate target panel m) (hl : l.ids.Nodup)
    {j : NodeId} {x : TabEntry} : m.Has j x ↔ l.Has j x ∨ j = panel ∧ x = entry := by
  cases h with
  | center hp => exact has_join hl hp
  | edge hp => exact has_splitOff hl hp
  | fallback hp => exact has_join hl hp

theorem Lands.shows (h : l.Lands next entry activate target panel m) (hl : l.ids.Nodup)
    {j : NodeId} {t : TabId} : m.Shows j t ↔ l.Shows j t ∨ j = panel ∧ t = entry.id :=
  shows_of_has (h.has hl)

theorem Lands.tidy (h : l.Lands next entry activate target panel m) (hl : l.ids.Nodup)
    (ht : l.Tidy) (hnew : entry.id ∉ l.tabIds) : m.Tidy := by
  cases h with
  | center hp => exact tidy_join ht hl hp hnew true
  | edge hp => exact tidy_splitOff ht hl hp hnew ..
  | fallback hp => exact tidy_join ht hl hp hnew activate

theorem Lands.loneEmpty (h : l.Lands next entry activate target panel m) (hl : l.ids.Nodup)
    (hlone : l.LoneEmpty) : m.LoneEmpty := by
  cases h with
  | center hp => exact loneEmpty_join hlone hl hp
  | edge hp => exact loneEmpty_splitOff hlone hl hp
  | fallback hp => exact loneEmpty_join hlone hl hp

/-! ## Empty panels -/

theorem filled_join {p : Panel} (hl : l.ids.Nodup) (hp : (panel, p) ∈ l.panels)
    (hfilled : l.Filled) (activate : Bool) : (l.join panel entry activate).Filled := by
  intro x hx he
  rw [join, id_graft fun p => id_panel panel (p.push entry activate)]
  rcases (mem_panels_graft hl hp).1 hx with ⟨hx, -⟩ | hx
  · exact hfilled x hx he
  · rw [panels, List.mem_singleton] at hx
    rw [hx, isEmpty_push] at he
    cases he

/-- A panel beside an empty one makes that one an empty panel below a split. -/
theorem filled_splitOff {p : Panel} (hl : l.ids.Nodup) (hp : (panel, p) ∈ l.panels)
    (hfilled : l.Filled) {id new : NodeId} {o : Orientation} {first : Bool}
    (hnodup : (l.splitOff panel id new o first entry).ids.Nodup) :
    (l.splitOff panel id new o first entry).Filled ↔ p.isEmpty = false := by
  have hmem {x : NodeId × Panel} : x ∈ (l.splitOff panel id new o first entry).panels ↔
      x ∈ l.panels ∧ x.1 ≠ panel ∨ x = (new, .single entry) ∨ x = (panel, p) :=
    mem_panels_splitOff hl hp
  constructor
  · intro h
    cases he : p.isEmpty with
    | false => rfl
    | true =>
        have hnew : (new, Panel.single entry) ∈
            (l.splitOff panel id new o first entry).panels := hmem.2 (.inr (.inl rfl))
        have hold : (panel, p) ∈ (l.splitOff panel id new o first entry).panels :=
          hmem.2 (.inr (.inr rfl))
        obtain ⟨-, rfl⟩ := Prod.mk.inj (h.eq_of_isEmpty hnodup hold he hnew)
        cases he
  · intro hne x hx he
    rcases hmem.1 hx with ⟨hx, hxpanel⟩ | rfl | rfl
    · exact absurd (congrArg Prod.fst (hfilled.eq_of_isEmpty hl hx he hp)).symm hxpanel
    · cases he
    · rw [hne] at he
      cases he

/-- The edge of an empty panel is the only place where a tab can land so that a panel below a split
is empty, if there was none. -/
theorem Lands.filled_iff (h : l.Lands next entry activate target panel m) (hl : l.ids.Nodup)
    (hm : m.ids.Nodup) (hfilled : l.Filled) :
    m.Filled ↔ ¬ l.SplitsEmpty target := by
  cases h with
  | @center _ p zone hp hzone =>
      have hcenter : zone = .center := Zone.eq_center hzone
      refine iff_of_true (filled_join hl hp hfilled true) ?_
      rintro ⟨t, ht, hedge, -⟩
      rw [Option.mem_some_iff] at ht
      subst ht
      exact hedge hcenter
  | @edge place p zone o hp hzone =>
      rw [filled_splitOff hl hp hfilled hm]
      constructor
      · rintro hne ⟨t, ht, -, q, hq, he⟩
        rw [Option.mem_some_iff] at ht
        subst ht
        rw [panel_unique hl hq hp, hne] at he
        cases he
      · intro hnot
        cases he : p.isEmpty with
        | false => rfl
        | true =>
            have hedge : zone ≠ .center := by
              rintro rfl
              cases hzone
            exact absurd ⟨⟨place, zone⟩, rfl, hedge, p, hp, he⟩ hnot
  | fallback hp hgone =>
      refine iff_of_true (filled_join hl hp hfilled activate) ?_
      rintro ⟨t, ht, -, q, hq, -⟩
      exact hgone t ht q hq

end Landing

end Layout

end Docking
