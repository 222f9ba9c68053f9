import Docking.Proofs.Dock.Frame
import Docking.Proofs.Dock.Steps
import Docking.Proofs.Tree.Areas

/-!
# Areas are never stale

Edits of a tree leave areas as they are and give none to new nodes, so an operation that changes the
layout has to end with a layout pass. Every operation that changes more than the contents of one
panel does: `Tree.AreaStep` lists what can happen to the areas of a dock, and after each of these
the areas are those of the viewport that was set last.

## Main results

* `apply_areaStep`: what an operation does to the areas.
* `apply_arranged`: an operation leaves every split dividing its own area.
* `run_settled`: the same after every run, where a further layout pass changes nothing.
-/

namespace Docking

/-- What an operation on a dock does to its areas: nothing, nothing beside other contents of a
panel, or a layout pass over `area` at the end. -/
inductive Tree.AreaStep (t : Tree) (area : Rect) : Tree → Prop
  | keep (h : t.viewport = area) : AreaStep t area t
  | fill (h : t.viewport = area) (id : NodeId) (p : Panel) : AreaStep t area (t.setPanel id p)
  | pass (u : Tree) : AreaStep t area (u.computeLayout area)

theorem Tree.AreaStep.viewport {t u : Tree} {area : Rect} (h : t.AreaStep area u) :
    u.viewport = area := by
  cases h with
  | keep h => exact h
  | fill h => exact h
  | pass u => rfl

/-- The viewport after an operation. -/
def Operation.viewport (before : Rect) : Operation → Rect
  | .setViewport area => area
  | _ => before

namespace Dock

/-! ## Moves of tabs do not touch the viewport -/

section Viewport

variable (d : Dock)

theorem viewport_defaultPanel : d.defaultPanel.2.tree.viewport = d.tree.viewport := by
  unfold defaultPanel
  split
  · rfl
  · split <;> rfl

theorem viewport_addToPanel (panel : NodeId) (entry : TabEntry) (activate : Bool) :
    (d.addToPanel panel entry activate).tree.viewport = d.tree.viewport := by
  unfold addToPanel
  split
  · rfl
  · split <;> rfl

theorem viewport_rehouse (panel : NodeId) :
    (d.rehouse panel).2.tree.viewport = d.tree.viewport := by
  unfold rehouse
  split
  · rfl
  · next tree htake =>
    have htree : tree.viewport = d.tree.viewport := Tree.viewport_takeDetached htake
    dsimp only
    split
    · exact htree
    · split
      · exact (viewport_defaultPanel _).trans htree
      · exact (viewport_addToPanel ..).trans ((viewport_defaultPanel _).trans htree)

theorem viewport_splitWith (entry : TabEntry) (target : NodeId) (o : Orientation) (first : Bool) :
    (d.splitWith entry target o first).2.tree.viewport = d.tree.viewport := by
  have hsplit := Tree.viewport_splitPanel (d.tree.insertPanel (.single entry)).2 target
    (d.tree.insertPanel (.single entry)).1 o first
  unfold splitWith
  dsimp only
  split
  · next hok =>
    rw [hok] at hsplit
    exact hsplit
  · next tree herror =>
    rw [herror] at hsplit
    exact (viewport_rehouse { d with tree } _).trans hsplit

theorem viewport_putEntry (entry : TabEntry) (target : Option DropTarget) (activate : Bool) :
    (d.putEntry entry target activate).2.tree.viewport = d.tree.viewport := by
  unfold putEntry
  split
  · split
    · exact viewport_splitWith ..
    · exact viewport_addToPanel ..
  · exact (viewport_addToPanel ..).trans (viewport_defaultPanel d)

theorem viewport_placeEntry (entry : TabEntry) (target : Option DropTarget) (activate : Bool) :
    (d.placeEntry entry target activate).2.tree.viewport = d.tree.viewport :=
  viewport_putEntry d entry target activate

theorem viewport_detach {tab : TabId} {panel : NodeId} {entry : TabEntry} {e : Dock}
    (h : d.detach tab panel = (some entry, e)) : e.tree.viewport = d.tree.viewport := by
  obtain ⟨q, rfl⟩ := eq_of_detach_some h
  refine (Tree.viewport_prune _).trans ?_
  split
  · exact Tree.viewport_removePanel ..
  · rfl

end Viewport

/-! ## Operations -/

section AreaStep

variable {d e : Dock} {l : Layout}

theorem areaStep_finish (h : e.tree.viewport = d.tree.viewport) :
    d.tree.AreaStep d.tree.viewport e.finish.tree := by
  rw [← h]
  exact .pass e.tree

theorem register_areaStep (d : Dock) (title : String) (surface : Surface)
    (target : Option DropTarget) (activate : Bool) :
    d.tree.AreaStep d.tree.viewport (d.register title surface target activate).2.tree :=
  areaStep_finish (viewport_placeEntry { d with nextTab := d.nextTab + 1 } _ target activate)

theorem Parts.areaStep (h : d.Parts e) : d.tree.AreaStep d.tree.viewport e.tree := by
  cases h with
  | nothing => exact .keep rfl
  | leaves hdetach => exact areaStep_finish (viewport_detach _ hdetach :)
  | beside => exact areaStep_finish rfl

theorem Presents.areaStep (h : d.Presents e) : d.tree.AreaStep d.tree.viewport e.tree := by
  cases h with
  | nothing => exact .keep rfl
  | tab => exact .fill rfl ..
  | window => exact .keep rfl

theorem moveTab_areaStep (d : Dock) (tab : TabId) (target : DropTarget) :
    d.tree.AreaStep d.tree.viewport (d.moveTab tab target).2.tree := by
  unfold moveTab
  split
  · split
    · exact .keep rfl
    · split
      · next hdetach =>
        rw [eq_of_detach_none hdetach]
        exact .keep rfl
      · next hdetach =>
        exact areaStep_finish ((viewport_placeEntry ..).trans (viewport_detach _ hdetach))
  · exact .keep rfl

theorem dockFloating_areaStep (d : Dock) (tab : TabId) (target : Option DropTarget) :
    d.tree.AreaStep d.tree.viewport (d.dockFloating tab target).2.tree := by
  unfold dockFloating
  split
  · exact .keep rfl
  · dsimp only
    split
    · exact .keep rfl
    · exact areaStep_finish (viewport_placeEntry { d with items := d.items.erase tab } ..)

theorem pointerUp_areaStep (d : Dock) : d.tree.AreaStep d.tree.viewport d.pointerUp.tree := by
  have hrelease := pointerUp_releases d
  generalize d.pointerUp = e at hrelease
  cases hrelease with
  | idle => exact .keep rfl
  | void => exact .keep rfl
  | click => exact ((activateTab_presents d.dropGesture _).areaStep :)
  | off => exact ((floatTab_parts d.dropGesture _).areaStep :)
  | drop => exact moveTab_areaStep d.dropGesture _ _

/-- A window is dropped, whichever of its tabs is found. -/
theorem dropWindow_areaStep (d : Dock) {payload : Payload} {shown : Option TabId}
    (hfinds : d.Finds payload shown) (point : Point) :
    d.tree.AreaStep d.tree.viewport (d.dropWindow payload shown point).tree := by
  cases shown with
  | none =>
      rw [dropWindow_none]
      exact .keep rfl
  | some tab =>
      obtain ⟨window, i, hwindow, -⟩ := hfinds
      rw [dropWindow_some d hwindow]
      exact dockFloating_areaStep d tab _

/-- What an operation does to the areas. -/
theorem apply_areaStep (h : d.Sound l) (op : Operation) :
    d.tree.AreaStep (op.viewport d.tree.viewport) (d.apply op).tree := by
  -- operations that only watch do not touch the tree
  have watch (hop : op.watches) : d.tree.AreaStep d.tree.viewport (d.apply op).tree := by
    have hsame : (d.apply op).tree = d.tree := (congrArg Dock.tree (calm_apply d hop) :)
    rw [hsame]
    exact .keep rfl
  cases op with
  | setViewport area => exact .pass d.tree
  | openTab title surface activate => exact register_areaStep d title surface none activate
  | dockNew title surface target => exact register_areaStep d title surface target true
  | closeTab tab => exact (closeTab_parts d tab).areaStep
  | activateTab tab => exact (activateTab_presents d tab).areaStep
  | cycleTab forward => exact (cycleTab_presents h.holds forward).areaStep
  | floatTab tab => exact (floatTab_parts d tab).areaStep
  | attachWindow tab window =>
      have hsame : (d.attachWindow tab window).2.tree = d.tree := by
        unfold attachWindow
        split <;> rfl
      show d.tree.AreaStep d.tree.viewport (d.attachWindow tab window).2.tree
      rw [hsame]
      exact .keep rfl
  | moveTab tab target => exact moveTab_areaStep d tab target
  | dockFloating tab target => exact dockFloating_areaStep d tab target
  | pointerUp => exact pointerUp_areaStep d
  | externalDrop payload point => exact dropWindow_areaStep d (h.finds payload) point
  | pointerDown | pointerMove | cancelDrag => exact watch rfl
  | externalOver | externalLeave | takeCommands => exact watch rfl

/-! ## Runs -/

/-- The viewport that was set last, which is the area of no size before the first one. -/
def lastViewport (ops : List Operation) : Rect := ops.foldl Operation.viewport .zero

/-- An operation leaves the topmost node with the whole viewport and every split dividing its own
area. -/
theorem apply_arranged (h : d.Sound l) (ht : d.tree.Arranged d.tree.viewport) (op : Operation) :
    (d.apply op).tree.viewport = op.viewport d.tree.viewport ∧
      (d.apply op).tree.Arranged (op.viewport d.tree.viewport) := by
  have hstep := apply_areaStep h op
  obtain ⟨m, hm, -⟩ := apply_follows h op
  have hholds := hm.holds
  refine ⟨hstep.viewport, ?_⟩
  generalize (d.apply op).tree = u at hstep hholds
  cases hstep with
  | keep hv => exact hv ▸ ht
  | fill hv id p => exact (hv ▸ ht).setPanel id p
  | pass w => exact hholds.of_computeLayout.arranged_computeLayout _

theorem Sound.run_arranged (h : d.Sound l) (ht : d.tree.Arranged d.tree.viewport)
    (ops : List Operation) :
    (d.run ops).tree.viewport = ops.foldl Operation.viewport d.tree.viewport ∧
      (d.run ops).tree.Arranged (ops.foldl Operation.viewport d.tree.viewport) := by
  induction ops generalizing d l with
  | nil => exact ⟨rfl, ht⟩
  | cons op ops ih =>
      obtain ⟨m, hm, -⟩ := apply_follows h op
      obtain ⟨hviewport, harranged⟩ := apply_arranged h ht op
      rw [List.foldl_cons, ← hviewport]
      exact ih hm (hviewport ▸ harranged)

/-- A layout pass changes nothing on a dock that some run leads to. -/
theorem Reachable.relayout_eq (h : d.Reachable) : d.tree.relayout = d.tree := by
  obtain ⟨l, hl⟩ := h.sound
  obtain ⟨settings, ops, rfl⟩ := h
  obtain ⟨hviewport, harranged⟩ := (sound_new settings).run_arranged Tree.arranged_new ops
  exact hl.holds.relayout_eq_iff.2 (hviewport ▸ harranged)

/-- After every run of operations the topmost node has the viewport that was set last, every split
divides its own area between its children, and a further layout pass changes nothing. -/
theorem run_settled (settings : DragSettings) (ops : List Operation) :
    let d := (new settings).run ops
    d.tree.Arranged (lastViewport ops) ∧ d.tree.relayout = d.tree :=
  ⟨((sound_new settings).run_arranged Tree.arranged_new ops).2,
    Reachable.relayout_eq ⟨settings, ops, rfl⟩⟩

end AreaStep

end Dock

end Docking
