import Docking.Proofs.Dock.Courses
import Docking.Proofs.Dock.Handover
import Docking.Proofs.Dock.Steps

/-!
# Requests that are declined

A request may name a tab that is not open, or one that is not where the request needs it, or a
target that is no panel, or it may ask for what is already so. The dock declines such a request and
is exactly the same afterwards, its counters, its gesture and its queue included. No other request
passes without a trace: whatever is not declined queues a command at least. A drop that the dock can
not make sense of counts as a window that has left.

## Main definitions

* `Dock.Undocked`: a tab that is in no panel.
* `Dock.Declines`: the requests that a dock declines, each with its reason.

## Main results

* `Declines.apply_eq`: a request that is declined changes nothing.
* `Sound.moveTab_eq_false_iff`: a move says that nothing has changed exactly if it is declined.
* `Sound.declines_or_queues`: every other request queues something.
* `receive_drop_foreign`: a drop of something else.
-/

namespace Docking

/-- Whether an operation asks for something to be done with a tab. -/
def Operation.asks : Operation → Bool
  | .closeTab _ | .activateTab _ | .floatTab _ | .moveTab .. | .dockFloating .. => true
  | _ => false

/-- A name that stands for no panel stands for nothing, or for a split. -/
theorem Tree.panel?_eq_none_iff {t : Tree} {id : NodeId} :
    t.panel? id = none ↔ t.contains id = false ∨ (t.split? id).isSome := by
  rw [contains_eq, panel?_eq, split?_eq]
  cases t.link? id with
  | none => simp
  | some n =>
      obtain ⟨parent, body⟩ := n
      cases body <;> simp [NodeBody.panel?, NodeBody.split?]

namespace Dock

open Layout hiding id

/-- A tab is in no panel: there is none of that name, or it floats. -/
inductive Undocked (d : Dock) (tab : TabId) : Prop where
  | unknown (h : d.item? tab = none)
  | floating {i : Item} (h : d.item? tab = some i) (hi : i.isFloating)

/-- The requests that a dock declines. -/
inductive Declines (d : Dock) : Operation → Prop where
  | close {tab : TabId} (h : d.item? tab = none) : Declines d (.closeTab tab)
  | activate {tab : TabId} (h : d.item? tab = none) : Declines d (.activateTab tab)
  /-- A floating tab whose window is not open yet can not be raised. -/
  | raise {tab : TabId} {i : Item} {surface : Surface} (h : d.item? tab = some i)
      (hplacement : i.placement = .floating none surface) : Declines d (.activateTab tab)
  | float {tab : TabId} (h : d.Undocked tab) : Declines d (.floatTab tab)
  | move {tab : TabId} (h : d.Undocked tab) (target : DropTarget) :
      Declines d (.moveTab tab target)
  /-- The target is no node of the layout. -/
  | moveNowhere (tab : TabId) {target : DropTarget}
      (h : d.tree.contains target.panel = false) : Declines d (.moveTab tab target)
  /-- The target is a split. -/
  | moveToSplit (tab : TabId) {target : DropTarget}
      (h : (d.tree.split? target.panel).isSome) : Declines d (.moveTab tab target)
  /-- A tab is in the centre of its own panel already. -/
  | moveToOwnCenter {tab : TabId} {panel : NodeId} (h : d.panelOf? tab = some panel) :
      Declines d (.moveTab tab ⟨panel, .center⟩)
  /-- A tab that is alone has its panel for itself already. -/
  | moveBesideNone {tab : TabId} {panel : NodeId} {p : Panel} (h : d.panelOf? tab = some panel)
      (hp : d.tree.panel? panel = some p) (halone : p.tabIds = [tab]) (zone : Zone) :
      Declines d (.moveTab tab ⟨panel, zone⟩)
  | dock {tab : TabId} (h : d.item? tab = none) (target : Option DropTarget) :
      Declines d (.dockFloating tab target)
  | dockAgain {tab : TabId} (h : (d.panelOf? tab).isSome) (target : Option DropTarget) :
      Declines d (.dockFloating tab target)
  | press {tab : TabId} (h : d.Undocked tab) (hdrag : d.externalDrag = false) (point : Point) :
      Declines d (.pointerDown tab point)

section Declining

variable {d e : Dock} {l : Layout} {tab : TabId}

theorem undocked_iff : d.Undocked tab ↔ d.panelOf? tab = none := by
  constructor
  · rintro (h | ⟨h, hi⟩)
    · rw [panelOf?, h, Option.bind_none]
    · exact (isFloating_iff_panelOf? h).1 hi
  · intro hpanel
    cases hitem : d.item? tab with
    | none => exact .unknown hitem
    | some i => exact .floating hitem ((isFloating_iff_panelOf? hitem).2 hpanel)

/-! ## Nothing is changed -/

/-- A move to a name that stands for no panel. -/
private theorem moveTab_of_panel?_eq_none {target : DropTarget}
    (h : d.tree.panel? target.panel = none) : d.moveTab tab target = (false, d) := by
  unfold moveTab
  cases d.panelOf? tab with
  | none => rfl
  | some source => simp only [h]

/-- A move of a tab to where it is. -/
private theorem moveTab_of_dropsOnItself {target : DropTarget} {source : NodeId}
    (h : d.panelOf? tab = some source)
    (hself : ∀ q, d.tree.panel? target.panel = some q → dropsOnItself source target q) :
    d.moveTab tab target = (false, d) := by
  cases htarget : d.tree.panel? target.panel with
  | none => exact moveTab_of_panel?_eq_none htarget
  | some q => simp only [moveTab, h, htarget, hself q htarget, if_true]

/-- A tab is alone in a panel that has no more than one tab. -/
private theorem tabIds_eq_singleton {p : Panel} (h : tab ∈ p.tabIds) (hfew : p.tabs.length ≤ 1) :
    p.tabIds = [tab] := by
  obtain ⟨t, ht⟩ := List.length_eq_one_iff.1
    (Nat.le_antisymm (p.length_tabIds.trans_le hfew) (List.length_pos_of_mem h))
  rw [ht, List.mem_singleton] at h
  rw [ht, h]

/-- A move that is declined says so. -/
theorem Declines.moveTab_eq {target : DropTarget} (h : d.Declines (.moveTab tab target)) :
    d.moveTab tab target = (false, d) := by
  cases h with
  | move h => simp only [moveTab, undocked_iff.1 h]
  | moveNowhere _ h => exact moveTab_of_panel?_eq_none (Tree.panel?_eq_none_iff.2 (.inl h))
  | moveToSplit _ h => exact moveTab_of_panel?_eq_none (Tree.panel?_eq_none_iff.2 (.inr h))
  | moveToOwnCenter h =>
      exact moveTab_of_dropsOnItself h fun q _ => by simp [dropsOnItself]
  | @moveBesideNone _ panel p h hp halone zone =>
      refine moveTab_of_dropsOnItself h fun q hq => ?_
      obtain rfl : p = q := Option.some.inj (hp.symm.trans hq)
      exact Bool.of_not_eq_false fun hself => tabIds_ne_singleton hself rfl tab halone

/-- A request that is declined changes nothing. -/
theorem Declines.apply_eq {op : Operation} (h : d.Declines op) : d.apply op = d := by
  cases h with
  | @close tab h => simp only [apply, closeTab, h]
  | @activate tab h => simp only [apply, activateTab, h]
  | @raise tab i surface h hplacement => simp only [apply, activateTab, h, hplacement]
  | @float tab h => exact floatTab_of_undocked (undocked_iff.1 h)
  | @move tab h target => exact congrArg Prod.snd (moveTab_eq (.move h target))
  | @moveNowhere tab target h => exact congrArg Prod.snd (moveTab_eq (.moveNowhere tab h))
  | @moveToSplit tab target h => exact congrArg Prod.snd (moveTab_eq (.moveToSplit tab h))
  | @moveToOwnCenter tab panel h => exact congrArg Prod.snd (moveTab_eq (.moveToOwnCenter h))
  | @moveBesideNone tab panel p h hp halone zone =>
      exact congrArg Prod.snd (moveTab_eq (.moveBesideNone h hp halone zone))
  | @dock tab h target => simp only [apply, dockFloating, h]
  | @dockAgain tab h target =>
      obtain ⟨panel, hpanel⟩ := Option.isSome_iff_exists.1 h
      obtain ⟨i, hitem, hplacement⟩ := panelOf?_eq_some_iff.1 hpanel
      simp only [apply, dockFloating, hitem, hplacement, Table.insert_erase hitem]
  | @press tab h hdrag point =>
      have hpress : d.press tab point = d := by simp only [Dock.press, undocked_iff.1 h]
      simp only [apply, pointerDown]
      cases hgesture : d.gesture with
      | none => exact hpress
      | some g =>
          rw [externalDrag, hgesture, Option.any_some] at hdrag
          simp only [hdrag, Bool.false_eq_true, if_false]

/-! ## Something is changed -/

theorem Queues.ne {c : Command} {cs : List Command} (h : Queues d e (c :: cs)) : e ≠ d := by
  rintro rfl
  have hlength := congrArg List.length h
  rw [List.length_append, List.length_cons] at hlength
  omega

/-- A move says that nothing has changed exactly if it is declined. -/
theorem Sound.moveTab_eq_false_iff (h : d.Sound l) {target : DropTarget} :
    (d.moveTab tab target).1 = false ↔ d.Declines (.moveTab tab target) := by
  refine ⟨fun hfalse => ?_, fun hdeclines => by rw [hdeclines.moveTab_eq]⟩
  cases hsource : d.panelOf? tab with
  | none => exact .move (undocked_iff.2 hsource) target
  | some source =>
      cases htarget : d.tree.panel? target.panel with
      | none =>
          rcases Tree.panel?_eq_none_iff.1 htarget with hgone | hsplit
          · exact .moveNowhere tab hgone
          · exact .moveToSplit tab hsplit
      | some q =>
          cases hself : dropsOnItself source target q with
          | false =>
              -- the tab is in its panel, so that it leaves and lands somewhere
              obtain ⟨p, hp, htab⟩ := h.exists_panel hsource
              obtain ⟨entry, u, hdetach, -⟩ := detach_eq h.holds h.tidy hp htab
              simp [moveTab, hsource, htarget, hself, hdetach] at hfalse
          | true =>
              obtain ⟨panel, zone⟩ := target
              simp only [dropsOnItself, Bool.and_eq_true, decide_eq_true_eq,
                Bool.or_eq_true] at hself
              obtain ⟨rfl, rfl | hfew⟩ := hself
              · exact .moveToOwnCenter hsource
              · refine .moveBesideNone hsource htarget ?_ zone
                obtain ⟨p, hp, htab⟩ := h.exists_panel hsource
                obtain rfl : p = q :=
                  Option.some.inj ((h.holds.panel?_of_mem hp).symm.trans htarget)
                exact tabIds_eq_singleton htab hfew

/-- Every request that is not declined queues something. -/
theorem Sound.declines_or_queues (h : d.Sound l) {op : Operation} (hop : op.asks) :
    d.Declines op ∨ ∃ c cs, Queues d (d.apply op) (c :: cs) := by
  cases op with
  | closeTab tab =>
      cases hitem : d.item? tab with
      | none => exact .inl (.close hitem)
      | some i =>
          refine .inr ?_
          cases hplacement : i.placement with
          | docked panel =>
              obtain ⟨p, entry, u, hclose, -⟩ :=
                closeTab_eq h (panelOf?_eq_some_iff.2 ⟨i, hitem, hplacement⟩)
              exact ⟨_, _, congrArg outbox hclose⟩
          | floating window surface =>
              have hclose := congrArg outbox (closeTab_of_floating hitem hplacement)
              cases window with
              | none => exact ⟨_, _, hclose⟩
              | some window => exact ⟨_, _, hclose⟩
  | activateTab tab =>
      cases hitem : d.item? tab with
      | none => exact .inl (.activate hitem)
      | some i =>
          cases hplacement : i.placement with
          | docked panel =>
              obtain ⟨p, hp, htab⟩ :=
                h.exists_panel (panelOf?_eq_some_iff.2 ⟨i, hitem, hplacement⟩)
              refine .inr ⟨.redraw, [], ?_⟩
              simp only [apply, activateTab, hitem, hplacement, h.holds.panel?_of_mem hp,
                Panel.activate_eq htab]
              rfl
          | floating window surface =>
              cases window with
              | none => exact .inl (.raise hitem hplacement)
              | some window =>
                  refine .inr ⟨.raiseWindow window, [], ?_⟩
                  simp only [apply, activateTab, hitem, hplacement]
                  rfl
  | floatTab tab =>
      cases hpanel : d.panelOf? tab with
      | none => exact .inl (.float (undocked_iff.2 hpanel))
      | some panel =>
          obtain ⟨i, p, entry, u, -, hfloat, -⟩ := floatTab_eq h hpanel
          exact .inr ⟨_, _, congrArg outbox hfloat⟩
  | moveTab tab target =>
      rcases Dock.moveTab_eq h tab target with
        hsame | ⟨e, m, entry, source, panel, p, q, hmove, -, k⟩
      · exact .inl (h.moveTab_eq_false_iff.1 (congrArg Prod.fst hsame))
      · refine .inr ⟨.unmount entry.surface.id, [.mount entry.surface.id panel, .redraw], ?_⟩
        show (d.moveTab tab target).2.outbox = _
        rw [hmove]
        exact congrArg outbox k.same
  | dockFloating tab target =>
      cases hitem : d.item? tab with
      | none => exact .inl (.dock hitem target)
      | some i =>
          cases hplacement : i.placement with
          | docked panel =>
              have hpanel := panelOf?_eq_some_iff.2 ⟨i, hitem, hplacement⟩
              exact .inl (.dockAgain (Option.isSome_of_mem hpanel) target)
          | floating window surface =>
              obtain ⟨panel, m, u, active, hdock, -⟩ := dockFloating_eq h hitem hplacement target
              refine .inr ⟨.mount surface.id panel, [.redraw], ?_⟩
              show (d.dockFloating tab target).2.outbox = _
              rw [hdock]
  | _ => cases hop

/-! ## Drops of something else -/

/-- Something is dropped that is no payload: only a window that is dragged is given up. -/
theorem receive_drop_foreign (d : Dock) {mime data : String}
    (h : mime ≠ Payload.mime ∨ Payload.ofText? data = none) (point : Point) :
    d.receive (.drop mime data point) =
      if d.externalDrag then { d with gesture := none, outbox := d.outbox ++ [.redraw] }
      else d := by
  show _ = d.externalLeave
  rw [receive]
  split
  · next hmime =>
    rw [h.resolve_left fun hne => hne hmime]
  · rfl

/-- Whatever the dock declines leaves it as it is, and it declines nothing else without a trace. The
answer to a move tells the two apart. Of a drop that can not be read nothing comes but the end of
the drag of a window, with one repaint. -/
theorem Reachable.declined_or_traced (h : d.Reachable) :
    (∀ op, d.Declines op → d.apply op = d) ∧
      (∀ op, op.asks → d.apply op = d → d.Declines op) ∧
      (∀ tab target, (d.moveTab tab target).1 = false ↔ d.Declines (.moveTab tab target)) ∧
      ∀ mime data point, mime ≠ Payload.mime ∨ Payload.ofText? data = none →
        d.receive (.drop mime data point) =
            (if d.externalDrag then { d with gesture := none, outbox := d.outbox ++ [.redraw] }
              else d) ∧
          d.handle (.drop mime data point) =
            (Command.batch? (d.outbox ++ if d.externalDrag then [.redraw] else []),
              { d with gesture := if d.externalDrag then none else d.gesture, outbox := [] }) := by
  obtain ⟨l, hsound⟩ := h.sound
  refine ⟨fun op => Declines.apply_eq, ?_, fun tab target => hsound.moveTab_eq_false_iff, ?_⟩
  · intro op hop hsame
    rcases hsound.declines_or_queues hop with hdeclines | ⟨c, cs, hqueues⟩
    · exact hdeclines
    · exact absurd hsame hqueues.ne
  · intro mime data point hforeign
    have hreceive := receive_drop_foreign d hforeign point
    refine ⟨hreceive, ?_⟩
    rw [handle_eq, hreceive]
    cases d.externalDrag with
    | true => rfl
    | false => simp [withQueue]

/-- One tab is docked, another one floats and its window is not open yet. A window is dragged over
the dock. -/
def oneDocked : Dock := (new .standard).run [
  .setViewport (.atOrigin 200 40),
  .openTab "A" ⟨⟨1⟩, "p"⟩ true,
  .openTab "B" ⟨⟨2⟩, "p"⟩ true,
  .floatTab ⟨2⟩,
  .externalOver ⟨5, 20⟩,
  .takeCommands]

/-- The docked tab can not be moved to an edge of its own panel, nor the other one be raised, but
the docked one can be closed. A text that is dropped ends the drag of the window. -/
theorem oneDocked_declines :
    oneDocked.Declines (.moveTab ⟨1⟩ ⟨⟨1⟩, .left⟩) ∧
      oneDocked.apply (.moveTab ⟨1⟩ ⟨⟨1⟩, .left⟩) = oneDocked ∧
      (oneDocked.moveTab ⟨1⟩ ⟨⟨1⟩, .left⟩).1 = false ∧
      oneDocked.Declines (.activateTab ⟨2⟩) ∧ oneDocked.apply (.activateTab ⟨2⟩) = oneDocked ∧
      oneDocked.apply (.closeTab ⟨1⟩) ≠ oneDocked ∧
      oneDocked.handle (.drop "text/plain" "" ⟨5, 20⟩) =
        (some .redraw, { oneDocked with gesture := none, outbox := [] }) := by
  have hreachable : oneDocked.Reachable := ⟨.standard, _, rfl⟩
  obtain ⟨hsame, htraced, hmove, hdrop⟩ := Reachable.declined_or_traced hreachable
  have hitem : oneDocked.item? ⟨2⟩ =
      some ⟨⟨2⟩, "B", "p", .floating none ⟨⟨2⟩, "p"⟩⟩ := by decide +kernel
  have hopen : oneDocked.item? ⟨1⟩ ≠ none := by decide +kernel
  have hpanel : oneDocked.tree.panel? ⟨1⟩ = some (.single ⟨⟨1⟩, "A", ⟨⟨1⟩, "p"⟩⟩) := by
    decide +kernel
  have hbeside : oneDocked.Declines (.moveTab ⟨1⟩ ⟨⟨1⟩, .left⟩) :=
    .moveBesideNone (by decide +kernel) hpanel rfl .left
  have hraise : oneDocked.Declines (.activateTab ⟨2⟩) := .raise hitem rfl
  refine ⟨hbeside, hsame _ hbeside, (hmove _ _).2 hbeside, hraise, hsame _ hraise, ?_, ?_⟩
  · intro hclosed
    cases htraced _ rfl hclosed with
    | close hnone => exact hopen hnone
  · have hdrag : oneDocked.externalDrag := by decide +kernel
    rw [(hdrop "text/plain" "" ⟨5, 20⟩ (.inl (by decide))).2, if_pos hdrag, if_pos hdrag]
    rfl

end Declining

end Dock

end Docking
