import Docking.Proofs.Dock.Focus
import Docking.Proofs.Dock.Frame
import Docking.Proofs.Tree.Writes

/-!
# Operations write to the tree

An operation on a sound dock changes the tree by writes, and in no other way. One function of a dock
could do more: choosing the default panel, which starts over with another tree where no panel is
left. In a sound dock there is always one. And an operation that makes another panel the active one
takes a panel that is there.

## Main definitions

* `Dock.Reshapes`: the tree is written, and the active panel is an old one or one that is there.

## Main results

* `placeEntry_reshapes`, `detach_written`: a tab lands, a tab leaves its panel.
* `apply_reshapes`: every operation.
-/

namespace Docking

namespace Dock

open Docking.Tree (Write Written)

/-- The tree has been written, and if another panel is the active one now, it is one of the new
tree. -/
def Reshapes (d e : Dock) : Prop :=
  d.tree.Written e.tree ∧
    (e.activePanel = d.activePanel ∨
      ∃ panel, e.activePanel = some panel ∧ (e.tree.panel? panel).isSome)

section Writes

variable {d e f : Dock} {l : Layout} {panel : NodeId} {p : Panel} {tab : TabId} {entry : TabEntry}

theorem Reshapes.refl (d : Dock) : d.Reshapes d := ⟨.refl _, .inl rfl⟩

theorem Reshapes.of_eq (htree : e.tree = d.tree) (hactive : e.activePanel = d.activePanel) :
    d.Reshapes e := ⟨htree ▸ .refl _, .inl hactive⟩

/-- The tree has been written before, while the active panel was the same. -/
theorem Reshapes.after (h : e.Reshapes f) (htree : d.tree.Written e.tree)
    (hactive : e.activePanel = d.activePanel) : d.Reshapes f :=
  ⟨htree.trans h.1, hactive ▸ h.2⟩

theorem Reshapes.finish (h : d.Reshapes e) : d.Reshapes e.finish := by
  refine ⟨h.1.write (.areas _), h.2.imp_right ?_⟩
  rintro ⟨panel, hactive, hpanel⟩
  refine ⟨panel, hactive, ?_⟩
  show (e.tree.relayout.panel? panel).isSome
  rwa [Tree.panel?_eq, Tree.link?_relayout, ← Tree.panel?_eq]

/-- A panel of the tree is written over and becomes the active one, or the active one stays. -/
theorem reshapes_setPanel (hpanel : d.tree.panel? panel = some p) (q : Panel)
    {active : Option NodeId} (hactive : active = d.activePanel ∨ active = some panel) :
    d.Reshapes { d with tree := d.tree.setPanel panel q, activePanel := active } := by
  refine ⟨(Write.panel ..).written, hactive.imp_right fun h => ⟨panel, h, ?_⟩⟩
  rw [Tree.panel?_setPanel, if_pos rfl, hpanel]
  rfl

/-! ## Moves of tabs -/

theorem addToPanel_reshapes (d : Dock) (panel : NodeId) (entry : TabEntry) (activate : Bool) :
    d.Reshapes (d.addToPanel panel entry activate) := by
  unfold addToPanel
  split
  · exact .refl _
  · next hpanel =>
    split
    · exact ⟨(Write.panel ..).written, .inl rfl⟩
    · refine reshapes_setPanel hpanel _ ?_
      split
      · exact .inr rfl
      · exact .inl rfl

theorem splitWith_reshapes (h : d.tree.Holds l) (hp : (panel, p) ∈ l.panels) (entry : TabEntry)
    (o : Orientation) (first : Bool) : d.Reshapes (d.splitWith entry panel o first).2 := by
  obtain ⟨hactive, q, hq, -⟩ := splitWith_fronts h hp entry o first
  refine ⟨?_, .inr ⟨_, hactive, Option.isSome_iff_exists.2 ⟨q, hq⟩⟩⟩
  have hinsert : d.tree.Written (d.tree.insertPanel (.single entry)).2 := (Write.add _).written
  have hsplit := Tree.splitPanel_written (d.tree.insertPanel (.single entry)).2 panel
    ⟨d.tree.nextNode⟩ o first
  obtain ⟨u, hu, -⟩ := Tree.splitPanel_holds h hp (.single entry) o first
  have hname : (d.tree.insertPanel (.single entry)).1 = ⟨d.tree.nextNode⟩ := rfl
  unfold splitWith
  simp only [hname, hu]
  rw [hu] at hsplit
  exact hinsert.trans hsplit

theorem placeEntry_reshapes (h : d.tree.Holds l) (entry : TabEntry) (target : Option DropTarget)
    (activate : Bool) : d.Reshapes (d.placeEntry entry target activate).2 := by
  suffices hput : d.Reshapes (d.putEntry entry target activate).2 from hput
  rcases putEntry_cases h entry target activate with
    ⟨panel, p, o, first, hp, hput⟩ | ⟨panel, p, shown, -, -, hput⟩
  · rw [hput]
    exact splitWith_reshapes h hp entry o first
  · rw [hput]
    exact addToPanel_reshapes d panel entry shown

/-- A tab that leaves its panel does not change the active panel, even where its panel goes with
it. -/
theorem detach_written (h : d.detach tab panel = (some entry, e)) :
    d.tree.Written e.tree ∧ e.activePanel = d.activePanel := by
  obtain ⟨q, rfl⟩ := eq_of_detach_some h
  refine ⟨Written.trans ?_ (Tree.attempt_written _ .prune), rfl⟩
  split
  · exact (Write.panel ..).written.trans (Tree.removePanel_written ..)
  · exact (Write.panel ..).written

/-! ## Operations -/

theorem register_reshapes (h : d.Sound l) (title : String) (surface : Surface)
    (target : Option DropTarget) (activate : Bool) :
    d.Reshapes (d.register title surface target activate).2 :=
  Reshapes.finish (placeEntry_reshapes (d := { d with nextTab := d.nextTab + 1 }) h.holds _ target
    activate)

theorem Parts.reshapes (h : d.Parts e) : d.Reshapes e := by
  cases h with
  | nothing => exact .refl _
  | leaves hdetach =>
      obtain ⟨htree, hactive⟩ := detach_written hdetach
      exact Reshapes.finish ⟨htree, .inl hactive⟩
  | beside => exact Reshapes.finish (.of_eq rfl rfl)

theorem Presents.reshapes (h : d.Presents e) : d.Reshapes e := by
  cases h with
  | nothing => exact .refl _
  | tab hpanel => exact reshapes_setPanel hpanel _ (.inr rfl)
  | window => exact .of_eq rfl rfl

theorem moveTab_reshapes (h : d.Sound l) (tab : TabId) (target : DropTarget) :
    d.Reshapes (d.moveTab tab target).2 := by
  unfold moveTab
  split
  · next source _ hsource _ =>
    split
    · exact .refl _
    · obtain ⟨p, hp, htab⟩ := h.exists_panel hsource
      obtain ⟨entry, u, hdetach, -, -, hholds, -⟩ := detach_eq h.holds h.tidy hp htab
      let rest : Dock := { d with tree := u, outbox := d.outbox ++ [.unmount entry.surface.id] }
      have hplaced := placeEntry_reshapes (d := rest) hholds entry (some target) true
      obtain ⟨htree, hactive⟩ := detach_written hdetach
      simp only [hdetach]
      exact Reshapes.finish (hplaced.after htree hactive)
  · exact .refl _

theorem dockFloating_reshapes (h : d.Sound l) (tab : TabId) (target : Option DropTarget) :
    d.Reshapes (d.dockFloating tab target).2 := by
  unfold dockFloating
  split
  · exact .refl _
  · dsimp only
    split
    · exact .of_eq rfl rfl
    · exact Reshapes.finish (placeEntry_reshapes (d := { d with items := d.items.erase tab })
        h.holds _ target true)

theorem pointerUp_reshapes (h : d.Sound l) : d.Reshapes d.pointerUp := by
  have hdropped : d.dropGesture.Sound l := h.congr rfl rfl rfl
  have hrelease := pointerUp_releases d
  generalize d.pointerUp = e at hrelease
  cases hrelease with
  | idle => exact .refl _
  | void => exact .of_eq rfl rfl
  | click => exact ((activateTab_presents d.dropGesture _).reshapes :)
  | off => exact ((floatTab_parts d.dropGesture _).reshapes :)
  | drop => exact moveTab_reshapes hdropped _ _

/-- A window is dropped, whichever of its tabs is found. -/
theorem dropWindow_reshapes (h : d.Sound l) {payload : Payload} {shown : Option TabId}
    (hfinds : d.Finds payload shown) (point : Point) :
    d.Reshapes (d.dropWindow payload shown point) := by
  cases shown with
  | none =>
      rw [dropWindow_none]
      exact .of_eq rfl rfl
  | some tab =>
      obtain ⟨window, i, hwindow, -⟩ := hfinds
      rw [dropWindow_some d hwindow]
      exact dockFloating_reshapes h tab _

/-- An operation on a sound dock changes the tree by writes, and makes no panel the active one that
is not there. -/
theorem apply_reshapes (h : d.Sound l) (op : Operation) : d.Reshapes (d.apply op) := by
  have watch (hop : op.watches) : d.Reshapes (d.apply op) :=
    have hcalm := calm_apply d hop
    .of_eq (congrArg Dock.tree hcalm :) (congrArg Dock.activePanel hcalm :)
  cases op with
  | setViewport area => exact ⟨(Write.areas area).written, .inl rfl⟩
  | openTab title surface activate => exact register_reshapes h title surface none activate
  | dockNew title surface target => exact register_reshapes h title surface target true
  | closeTab tab => exact (closeTab_parts d tab).reshapes
  | activateTab tab => exact (activateTab_presents d tab).reshapes
  | cycleTab forward => exact (cycleTab_presents h.holds forward).reshapes
  | floatTab tab => exact (floatTab_parts d tab).reshapes
  | attachWindow tab window =>
      show d.Reshapes (d.attachWindow tab window).2
      unfold attachWindow
      split <;> exact .of_eq rfl rfl
  | moveTab tab target => exact moveTab_reshapes h tab target
  | dockFloating tab target => exact dockFloating_reshapes h tab target
  | pointerUp => exact pointerUp_reshapes h
  | externalDrop payload point => exact dropWindow_reshapes h (h.finds payload) point
  | pointerDown | pointerMove | cancelDrag => exact watch rfl
  | externalOver | externalLeave | takeCommands => exact watch rfl

end Writes

end Dock

end Docking
