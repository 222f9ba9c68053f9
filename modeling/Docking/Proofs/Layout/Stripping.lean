import Docking.Proofs.Layout.Change
import Mathlib.Data.List.Perm.Basic

/-!
# What is left of a layout

Taking tabs out of a layout one after another makes splits collapse in an order that depends on the
order of the tabs. What is left in the end does not: it is found by taking the tabs out of their
panels while all panels stay (`Layout.strip`) and then leaving out the empty panels at once
(`Layout.kept`). The layout after each single step has the same panels to keep as the stripped
layout has, which is what `kept_vacate` and `kept_strip` say.

## Main results

* `pruned_of_kept`: pruning leaves what is to be kept.
* `kept_vacate`: taking a tab out of its panel leaves what stripping leaves.
* `foldl_strip_perm`: tabs can be stripped in any order.
-/

namespace Docking

namespace Panel

private theorem head?_filter_ne {ts : List TabEntry} {tab : TabId}
    (h : ts.head?.map TabEntry.id ≠ some tab) :
    (ts.filter fun t => t.id ≠ tab).head?.map TabEntry.id = ts.head?.map TabEntry.id := by
  cases ts with
  | nil => rfl
  | cons t ts =>
      have ht : t.id ≠ tab := by simpa using h
      simp [ht]

/-- The tab that becomes active in the place of `s` is the first one that stays in the end. -/
private theorem without_comm_of_active {p : Panel} {s t : TabId} (hst : s ≠ t)
    (hs : p.active = some s) : (p.without s).without t = (p.without t).without s := by
  have htabs : ((p.without s).without t).tabs = ((p.without t).without s).tabs := by
    simp only [without, List.filter_filter, Bool.and_comm]
  have hother : (p.without t).active = some s := by
    simp [without, hs, hst]
  have hactive : ((p.without s).without t).active = ((p.without t).without s).active := by
    have hlast : ((p.without t).without s).active =
        ((p.without t).without s).tabs.head?.map TabEntry.id := if_pos hother
    have hfirst : (p.without s).active = (p.without s).tabs.head?.map TabEntry.id := if_pos hs
    rw [hlast, ← htabs]
    by_cases ht : (p.without s).active = some t
    · exact if_pos ht
    · have hsame : ((p.without s).without t).active = (p.without s).active := if_neg ht
      rw [hsame, hfirst]
      exact (head?_filter_ne (hfirst ▸ ht)).symm
  calc (p.without s).without t
      = ⟨((p.without s).without t).tabs, ((p.without s).without t).active⟩ := rfl
    _ = (p.without t).without s := by rw [htabs, hactive]

/-- Tabs can be taken out of a panel in any order. -/
theorem without_comm (p : Panel) (s t : TabId) :
    (p.without s).without t = (p.without t).without s := by
  by_cases hst : s = t
  · rw [hst]
  · by_cases hs : p.active = some s
    · exact without_comm_of_active hst hs
    · by_cases ht : p.active = some t
      · exact (without_comm_of_active (Ne.symm hst) ht).symm
      · simp only [without, if_neg hs, if_neg ht, List.filter_filter, Bool.and_comm]

theorem without_of_isEmpty {p : Panel} (h : p.isEmpty) (tab : TabId) : (p.without tab).isEmpty := by
  rw [isEmpty_iff] at h ⊢
  rw [tabIds_without, h]
  rfl

end Panel

namespace Layout

/-- What is left of a split of whose parts something may be left: a part that is alone takes the
place of the split. -/
def rejoin (id : NodeId) (o : Orientation) (r : Float32) :
    Option Layout → Option Layout → Option Layout
  | none, rest => rest
  | some a, none => some a
  | some a, some b => some (split id o r a b)

@[simp] theorem rejoin_none (id : NodeId) (o : Orientation) (r : Float32) (rest : Option Layout) :
    rejoin id o r none rest = rest := rfl

@[simp] theorem rejoin_none_right (id : NodeId) (o : Orientation) (r : Float32)
    (rest : Option Layout) : rejoin id o r rest none = rest := by
  cases rest <;> rfl

@[simp] theorem rejoin_some (id : NodeId) (o : Orientation) (r : Float32) (a b : Layout) :
    rejoin id o r (some a) (some b) = some (split id o r a b) := rfl

/-- The layout without its empty panels, if some panel holds a tab. -/
def kept : Layout → Option Layout
  | panel id p => if p.isEmpty then none else some (panel id p)
  | split id o r a b => rejoin id o r a.kept b.kept

/-- The layout with a tab taken out of its panel, where all panels stay. -/
def strip (tab : TabId) : Layout → Layout
  | panel id p => panel id (p.without tab)
  | split id o r a b => split id o r (a.strip tab) (b.strip tab)

section Kept

variable {l m : Layout} {tab : TabId} {target : NodeId} {p : Panel}

/-- Where all panels are empty one has to stay, and otherwise nothing else does. -/
theorem kept_eq (l : Layout) : l.kept = if l.pruned.isBlank then none else some l.pruned := by
  induction l with
  | panel id p => rfl
  | split id o r a b iha ihb =>
      rw [kept, pruned, iha, ihb]
      cases ha : a.pruned.isBlank with
      | true => simp
      | false =>
          cases hb : b.pruned.isBlank with
          | true => simp [ha]
          | false =>
              have hsplit : (split id o r a.pruned b.pruned).isBlank = false := rfl
              simp [hsplit]

theorem pruned_of_kept (h : l.kept = some m) : l.pruned = m := by
  rw [kept_eq] at h
  split at h
  · cases h
  · exact Option.some.inj h

theorem kept_pruned (l : Layout) : l.pruned.kept = l.kept := by
  induction l with
  | panel id p => rfl
  | split id o r a b iha ihb =>
      have ha := kept_eq a
      have hb := kept_eq b
      rw [pruned, kept]
      split
      · next h =>
        rw [ha, if_pos h, rejoin_none, ihb]
      · split
        · next h =>
          rw [hb, if_pos h, rejoin_none_right, iha]
        · rw [kept, iha, ihb]

theorem pruned_pruned (l : Layout) : l.pruned.pruned = l.pruned :=
  pruned_eq_self fun _ => eq_panel_of_mem_pruned

/-- There is something to keep where a tab is shown. -/
theorem kept_isSome (h : l.Shows target tab) : l.kept.isSome := by
  obtain ⟨p, hp, htab⟩ := h
  rw [kept_eq]
  rcases l.panels_pruned with ⟨hblank, -⟩ | ⟨-, -, hempty⟩
  · simp [hblank]
  · have hp := hempty (target, p) hp
    rw [not_isEmpty_of_mem htab] at hp
    cases hp

/-! ## Stripping -/

/-- What stripping leaves depends on what there is to keep. -/
theorem kept_strip (l : Layout) (tab : TabId) :
    (l.strip tab).kept = l.kept.bind fun m => (m.strip tab).kept := by
  induction l with
  | panel id p =>
      rw [kept]
      split
      · next h => simp [strip, kept, Panel.without_of_isEmpty h]
      · rfl
  | split id o r a b iha ihb =>
      rw [strip, kept, kept, iha, ihb]
      cases a.kept with
      | none => simp
      | some a => cases b.kept <;> simp [strip, kept]

/-- A tab that is not there is not missed. -/
theorem strip_of_notMem (h : tab ∉ l.tabIds) (hactive : ∀ x ∈ l.panels, x.2.active ≠ some tab) :
    l.strip tab = l := by
  induction l with
  | panel id p =>
      have hp : tab ∉ p.tabIds := by simpa [tabIds, panels] using h
      rw [strip, without_of_notMem hp (hactive (id, p) (by simp [panels]))]
  | split id o r a b iha ihb =>
      rw [tabIds_split, List.mem_append, not_or] at h
      simp only [panels, List.mem_append] at hactive
      rw [strip, iha h.1 fun x hx => hactive x (.inl hx), ihb h.2 fun x hx => hactive x (.inr hx)]

/-- A tab that no panel shows is no active tab either. -/
theorem Tidy.strip_of_notMem (ht : l.Tidy) (h : tab ∉ l.tabIds) : l.strip tab = l := by
  refine Layout.strip_of_notMem h fun x hx hactive => h ?_
  exact mem_tabIds.2 ⟨x.1, x.2, hx, (Panel.fits_iff.1 (ht.fits x hx)).1 tab hactive⟩

theorem strip_comm (l : Layout) (s t : TabId) : (l.strip s).strip t = (l.strip t).strip s := by
  induction l with
  | panel id p => simp only [strip, p.without_comm]
  | split id o r a b iha ihb => simp only [strip, iha, ihb]

/-- Tabs can be stripped in any order. -/
theorem foldl_strip_perm {tabs tabs' : List TabId} (h : tabs.Perm tabs') (l : Layout) :
    tabs.foldl (fun l tab => l.strip tab) l = tabs'.foldl (fun l tab => l.strip tab) l :=
  h.foldl_eq' (fun s _ t _ l => l.strip_comm s t) l

/-! ## Taking a tab out of its panel -/

private theorem kept_fill (c : Crumb) {l m : Layout} (h : l.kept = m.kept) :
    (c.fill l).kept = (c.fill m).kept := by
  unfold Crumb.fill
  split <;> simp only [kept, h]

theorem kept_plug (cs : List Crumb) {l m : Layout} (h : l.kept = m.kept) :
    (plug cs l).kept = (plug cs m).kept := by
  induction cs generalizing l m with
  | nil => exact h
  | cons c cs ih => exact ih (kept_fill c h)

theorem strip_plug {cs : List Crumb} (h : Misses cs tab) (l : Layout) :
    (plug cs l).strip tab = plug cs (l.strip tab) := by
  induction cs generalizing l with
  | nil => rfl
  | cons c cs ih =>
      have hsibling : c.sibling.strip tab = c.sibling :=
        strip_of_notMem (h.absent c (List.mem_cons_self ..)) (h.inactive c (List.mem_cons_self ..))
      have hfill : (c.fill l).strip tab = c.fill (l.strip tab) := by
        unfold Crumb.fill
        split <;> simp only [strip, hsibling]
      rw [plug, ih h.tail, hfill, plug]

/-- A panel that is removed because it is empty is not missed. -/
theorem kept_refill (h : l.ids.Nodup) (hp : (target, p) ∈ l.panels) (q : Panel) :
    (l.refill target q).kept = (l.touch target q).kept := by
  rw [refill]
  split
  · next he =>
    rw [Bool.and_eq_true, decide_eq_true_eq] at he
    obtain ⟨cs, rfl, htarget⟩ := exists_trail h hp
    cases cs with
    | nil => exact absurd rfl he.2
    | cons c cs =>
        rw [remove_plug_panel htarget, touch, graft_plug_panel htarget]
        refine kept_plug cs ?_
        unfold Crumb.fill
        split <;> simp only [kept, if_pos he.1, rejoin_none, rejoin_none_right]
  · rfl

/-- Taking a tab out of its panel leaves what stripping leaves. -/
theorem kept_vacate (ht : l.Tidy) (h : l.ids.Nodup) (hp : (target, p) ∈ l.panels)
    (htab : tab ∈ p.tabIds) : (l.vacate target (p.without tab)).kept = (l.strip tab).kept := by
  rw [vacate, kept_pruned, kept_refill h hp]
  obtain ⟨cs, rfl, htarget⟩ := exists_trail h hp
  rw [touch, graft_plug_panel htarget, strip_plug (misses_of_tidy ht htarget htab)]
  rfl

end Kept

end Layout

end Docking
