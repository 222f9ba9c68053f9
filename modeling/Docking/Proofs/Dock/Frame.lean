import Docking.Proofs.Dock.Operation

/-!
# What operations on tabs do not look at

An operation on a tab looks neither at the gesture that is going on nor at the commands that are
queued already. It leaves both as they are and queues its own commands behind the others. So where
`Dock.amid` puts a dock into the midst of other doings, it may do so before the operation or after
it.

## Main results

* `placeEntry_amid`, `detach_amid`: a tab lands, a tab leaves its panel.
* `register_amid`, `closeTab_amid`, `moveTab_amid` and so on: operations on tabs.
* `dropWindow_some`, `dropWindow_none`: a window that is dropped docks the tab that it shows,
  whichever is found for it, or a new tab is asked for.
* `calm_congr`: what follows for docks that differ in nothing else.
* `calm_apply`: operations that change nothing but the gesture and the queue.
-/

namespace Docking

/-- Whether an operation watches the pointer or hands out the queue, and does no more. -/
def Operation.watches : Operation → Bool
  | .pointerDown .. | .pointerMove _ | .cancelDrag | .externalOver _ | .externalLeave
  | .takeCommands => true
  | _ => false

namespace Dock

/-- The dock amid another gesture, with earlier commands in its queue. -/
def amid (d : Dock) (gesture : Option Gesture) (earlier : List Command) : Dock :=
  { d with gesture, outbox := earlier ++ d.outbox }

/-- The dock without a gesture and with an empty queue. -/
def calm (d : Dock) : Dock := { d with gesture := none, outbox := [] }

section Frame

variable (d : Dock) (g : Option Gesture) (cs : List Command)

@[simp] theorem tree_amid : (d.amid g cs).tree = d.tree := rfl

@[simp] theorem item?_amid (tab : TabId) : (d.amid g cs).item? tab = d.item? tab := rfl

@[simp] theorem panelOf?_amid (tab : TabId) : (d.amid g cs).panelOf? tab = d.panelOf? tab := rfl

theorem setPlacement_amid (tab : TabId) (placement : Placement) :
    (d.amid g cs).setPlacement tab placement = (d.setPlacement tab placement).amid g cs := rfl

theorem emit_amid (c : Command) : (d.amid g cs).emit c = (d.emit c).amid g cs := by
  simp only [emit, amid, List.append_assoc]

theorem finish_amid : (d.amid g cs).finish = d.finish.amid g cs :=
  emit_amid { d with tree := d.tree.relayout } g cs .redraw

theorem finish_items_amid (items : Table TabId Item) :
    { d.amid g cs with items }.finish = { d with items }.finish.amid g cs :=
  finish_amid { d with items } g cs

/-! ## Placing and taking out tabs -/

theorem defaultPanel_amid :
    (d.amid g cs).defaultPanel = (d.defaultPanel.1, d.defaultPanel.2.amid g cs) := by
  unfold defaultPanel
  cases hactive : d.activePanel.filter fun p => (d.tree.panel? p).isSome with
  | some panel => simp only [amid, hactive]
  | none =>
      cases hfirst : d.tree.firstPanel? with
      | some panel => simp only [amid, hactive, hfirst]
      | none => simp only [amid, hactive, hfirst]

theorem addToPanel_amid (panel : NodeId) (entry : TabEntry) (activate : Bool) :
    (d.amid g cs).addToPanel panel entry activate =
      (d.addToPanel panel entry activate).amid g cs := by
  unfold addToPanel
  rw [tree_amid]
  cases d.tree.panel? panel with
  | none => rfl
  | some p =>
      dsimp only
      obtain ⟨added, q⟩ := p.addTab entry activate
      cases added with
      | error rejected => exact emit_amid { d with tree := d.tree.setPanel panel q } g cs _
      | ok => rfl

theorem rehouse_amid (panel : NodeId) :
    (d.amid g cs).rehouse panel =
      ((d.rehouse panel).1, (d.rehouse panel).2.amid g cs) := by
  unfold rehouse
  rw [tree_amid]
  cases d.tree.takeDetached panel with
  | none => rfl
  | some x =>
      obtain ⟨n, tree⟩ := x
      have hrest : ({ d.amid g cs with tree } : Dock) = ({ d with tree } : Dock).amid g cs := rfl
      dsimp only
      rw [hrest]
      cases n.body with
      | split s => rfl
      | panel p =>
          cases hentry : p.tabIds.head?.bind fun tab => (p.removeTab tab).1 with
          | none => simp only [hentry, defaultPanel_amid]
          | some entry => simp only [hentry, defaultPanel_amid, addToPanel_amid]

theorem splitWith_amid (entry : TabEntry) (target : NodeId) (o : Orientation) (first : Bool) :
    (d.amid g cs).splitWith entry target o first =
      ((d.splitWith entry target o first).1, (d.splitWith entry target o first).2.amid g cs) := by
  unfold splitWith
  rw [tree_amid]
  obtain ⟨panel, loose⟩ := d.tree.insertPanel (.single entry)
  cases hsplit : loose.splitPanel target panel o first with
  | mk outcome tree =>
      cases outcome with
      | ok split =>
          simp only [hsplit]
          rfl
      | error e =>
          simp only [hsplit]
          exact rehouse_amid { d with tree } g cs panel

theorem placeEntry_amid (entry : TabEntry) (target : Option DropTarget) (activate : Bool) :
    (d.amid g cs).placeEntry entry target activate =
      ((d.placeEntry entry target activate).1,
        (d.placeEntry entry target activate).2.amid g cs) := by
  have hput : (d.amid g cs).putEntry entry target activate =
      ((d.putEntry entry target activate).1, (d.putEntry entry target activate).2.amid g cs) := by
    unfold putEntry
    rw [tree_amid]
    cases target.filter fun t => (d.tree.panel? t.panel).isSome with
    | none => simp only [defaultPanel_amid, addToPanel_amid]
    | some t =>
        obtain ⟨panel, zone⟩ := t
        cases hzone : zone.orientation? with
        | some o => simp only [hzone, splitWith_amid]
        | none => simp only [hzone, addToPanel_amid]
  unfold placeEntry
  rw [hput]
  simp only [emit_amid]

theorem detach_amid (tab : TabId) (panel : NodeId) :
    (d.amid g cs).detach tab panel =
      ((d.detach tab panel).1, (d.detach tab panel).2.amid g cs) := by
  unfold detach
  rw [tree_amid]
  cases d.tree.panel? panel with
  | none => rfl
  | some p =>
      dsimp only
      obtain ⟨removed, q⟩ := p.removeTab tab
      cases removed with
      | none => rfl
      | some entry =>
          simp only [emit, amid, List.append_assoc]
          rfl

/-! ## Operations -/

theorem activateTab_amid (tab : TabId) :
    (d.amid g cs).activateTab tab = (d.activateTab tab).amid g cs := by
  unfold activateTab
  rw [item?_amid, tree_amid]
  cases d.item? tab with
  | none => rfl
  | some i =>
      cases hplacement : i.placement with
      | docked panel =>
          cases hpanel : d.tree.panel? panel with
          | none => simp only [hplacement, hpanel]
          | some p =>
              simp only [hplacement, hpanel]
              obtain ⟨shown, q⟩ := p.activate tab
              cases shown with
              | false => rfl
              | true =>
                  exact emit_amid
                    { d with tree := d.tree.setPanel panel q, activePanel := some panel } g cs
                    .redraw
      | floating window surface =>
          cases window with
          | none => simp only [hplacement]
          | some window => simp only [hplacement, emit_amid]

theorem floatTab_amid (tab : TabId) : (d.amid g cs).floatTab tab = (d.floatTab tab).amid g cs := by
  unfold floatTab
  rw [item?_amid]
  cases d.item? tab with
  | none => rfl
  | some i =>
      cases hpanel : i.panel? with
      | none => simp only [hpanel]
      | some panel =>
          simp only [hpanel, detach_amid]
          obtain ⟨taken, e⟩ := d.detach tab panel
          cases taken with
          | none => rfl
          | some entry => simp only [setPlacement_amid, emit_amid, finish_amid]

theorem setViewport_amid (area : Rect) :
    (d.amid g cs).setViewport area = (d.setViewport area).amid g cs :=
  emit_amid { d with tree := d.tree.computeLayout area } g cs .redraw

theorem register_amid (title : String) (surface : Surface) (target : Option DropTarget)
    (activate : Bool) :
    (d.amid g cs).register title surface target activate =
      ((d.register title surface target activate).1,
        (d.register title surface target activate).2.amid g cs) := by
  have hplace := placeEntry_amid { d with nextTab := d.nextTab + 1 } g cs
    ⟨⟨d.nextTab⟩, title, surface⟩ target activate
  have hnext : ({ d.amid g cs with nextTab := (d.amid g cs).nextTab + 1 } : Dock) =
      ({ d with nextTab := d.nextTab + 1 } : Dock).amid g cs := rfl
  unfold register
  dsimp only
  rw [hnext]
  dsimp only [amid] at hplace ⊢
  rw [hplace]
  exact congrArg (Prod.mk _) (finish_items_amid _ g cs _)

theorem closeTab_amid (tab : TabId) : (d.amid g cs).closeTab tab = (d.closeTab tab).amid g cs := by
  have hgone : ({ d.amid g cs with items := d.items.erase tab } : Dock) =
      ({ d with items := d.items.erase tab } : Dock).amid g cs := rfl
  unfold closeTab
  rw [item?_amid]
  cases d.item? tab with
  | none => rfl
  | some i =>
      rw [show (d.amid g cs).items = d.items from rfl, hgone]
      cases hplacement : i.placement with
      | docked panel =>
          simp only [hplacement, detach_amid]
          obtain ⟨taken, e⟩ := ({ d with items := d.items.erase tab } : Dock).detach tab panel
          cases taken with
          | none => exact finish_amid e g cs
          | some entry => simp only [emit_amid, finish_amid]
      | floating window surface =>
          cases window with
          | none => simp only [hplacement, Option.elim_none, emit_amid, finish_amid]
          | some window => simp only [hplacement, Option.elim_some, emit_amid, finish_amid]

theorem cycleTab_amid (forward : Bool) :
    (d.amid g cs).cycleTab forward = (d.cycleTab forward).amid g cs := by
  unfold cycleTab
  rw [defaultPanel_amid]
  dsimp only
  rw [tree_amid]
  generalize d.defaultPanel = x
  obtain ⟨panel, e⟩ := x
  cases e.tree.panel? panel with
  | none => rfl
  | some p =>
      dsimp only
      obtain ⟨shown, q⟩ := p.cycle forward
      cases shown with
      | none => rfl
      | some tab =>
          exact emit_amid
            { e with tree := e.tree.setPanel panel q, activePanel := some panel } g cs .redraw

theorem attachWindow_amid (tab : TabId) (window : Window) :
    (d.amid g cs).attachWindow tab window =
      ((d.attachWindow tab window).1, (d.attachWindow tab window).2.amid g cs) := by
  unfold attachWindow
  rw [item?_amid]
  split
  · rfl
  · exact congrArg (Prod.mk _) (emit_amid d g cs _)

theorem dockFloating_amid (tab : TabId) (target : Option DropTarget) :
    (d.amid g cs).dockFloating tab target =
      ((d.dockFloating tab target).1, (d.dockFloating tab target).2.amid g cs) := by
  have hgone : ({ d.amid g cs with items := d.items.erase tab } : Dock) =
      ({ d with items := d.items.erase tab } : Dock).amid g cs := rfl
  unfold dockFloating
  rw [item?_amid]
  cases d.item? tab with
  | none => rfl
  | some i =>
      rw [show (d.amid g cs).items = d.items from rfl, hgone]
      cases hplacement : i.placement with
      | docked panel =>
          simp only [hplacement]
          rfl
      | floating window surface =>
          simp only [hplacement]
          rw [placeEntry_amid]
          exact congrArg (Prod.mk _) (finish_items_amid _ g cs _)

theorem moveTab_amid (tab : TabId) (target : DropTarget) :
    (d.amid g cs).moveTab tab target =
      ((d.moveTab tab target).1, (d.moveTab tab target).2.amid g cs) := by
  unfold moveTab
  rw [panelOf?_amid, tree_amid]
  cases d.panelOf? tab with
  | none => rfl
  | some source =>
      cases d.tree.panel? target.panel with
      | none => rfl
      | some q =>
          by_cases hself : dropsOnItself source target q
          · simp only [hself, if_true]
          · simp only [hself, detach_amid, Bool.false_eq_true, if_false]
            obtain ⟨taken, e⟩ := d.detach tab source
            cases taken with
            | none => rfl
            | some entry => simp only [placeEntry_amid, setPlacement_amid, finish_amid]

end Frame

/-! ## Windows that are dropped on the dock -/

/-- The drop of a window that shows a tab docks the tab, closes the window, and ends the gesture if
a window is dragged. -/
theorem dropWindow_some (d : Dock) {payload : Payload} {window : Window}
    (hpayload : payload.window = some window) (tab : TabId) (point : Point) :
    d.dropWindow payload (some tab) point =
      (((d.dockFloating tab ((d.hitTest point).map Prod.fst)).2.emit (.closeWindow window)).emit
        .redraw).amid (if d.externalDrag then none else d.gesture) [] := by
  have hgesture : (if d.externalDrag then d.dropGesture else d) =
      d.amid (if d.externalDrag then none else d.gesture) [] := by
    split <;> rfl
  have hhit : ∀ g, (d.amid g []).hitTest point = d.hitTest point := fun _ => rfl
  unfold dropWindow
  rw [hgesture, hpayload]
  simp only [hhit, dockFloating_amid, Option.elim_some, emit_amid]

/-- The drop of anything else asks for a new tab and closes the window, if there is one. -/
theorem dropWindow_none (d : Dock) (payload : Payload) (point : Point) :
    d.dropWindow payload none point = { d with
      gesture := if d.externalDrag then none else d.gesture
      outbox := d.outbox ++ (.instantiate payload.plugin ((d.hitTest point).map Prod.fst) ::
        (payload.window.toList.map .closeWindow ++ [.redraw])) } := by
  have hgesture : (if d.externalDrag then d.dropGesture else d) =
      { d with gesture := if d.externalDrag then none else d.gesture } := by
    split <;> rfl
  unfold dropWindow
  rw [hgesture]
  cases payload.window with
  | none => simp [emit, hitTest]
  | some w => simp [emit, hitTest]

/-! ## Docks that differ in the gesture and the queue -/

section Calm

variable {d e : Dock}

private theorem amid_calm (d : Dock) : d.calm.amid d.gesture d.outbox = d := by
  unfold amid calm
  rw [List.append_nil]

/-- What looks at neither the gesture nor the queue keeps the gesture, and does the same to docks
that differ in nothing else. -/
theorem calm_congr (f : Dock → Dock) (hf : ∀ d g cs, f (d.amid g cs) = (f d).amid g cs)
    (h : e.calm = d.calm) : (f e).gesture = e.gesture ∧ (f e).calm = (f d).calm := by
  have heq : ∀ d : Dock, f d = (f d.calm).amid d.gesture d.outbox := by
    intro d
    have hd := hf d.calm d.gesture d.outbox
    rwa [amid_calm] at hd
  have hcalm : ∀ d : Dock, (f d).calm = (f d.calm).calm := by
    intro d
    rw [heq d]
    rfl
  refine ⟨?_, ?_⟩
  · rw [heq e]
    rfl
  · rw [hcalm e, h, ← hcalm d]

end Calm

/-! ## Operations that watch -/

/-- Such an operation changes the gesture and the queue only. -/
theorem calm_apply (d : Dock) {op : Operation} (hop : op.watches) : (d.apply op).calm = d.calm := by
  have hpress (e : Dock) (tab : TabId) (point : Point) : (e.press tab point).calm = e.calm := by
    unfold press
    split <;> rfl
  cases op with
  | pointerDown tab point =>
      show (d.pointerDown tab point).calm = d.calm
      unfold pointerDown
      split
      · exact hpress d tab point
      · split
        · exact hpress (d.dropGesture.emit .redraw) tab point
        · rfl
  | pointerMove point =>
      show (d.pointerMove point).calm = d.calm
      unfold pointerMove
      split
      · rfl
      · split
        · rfl
        · dsimp only
          split <;> rfl
  | cancelDrag =>
      show d.cancelDrag.calm = d.calm
      unfold cancelDrag
      split <;> rfl
  | externalOver point =>
      show (d.externalOver point).calm = d.calm
      unfold externalOver
      split
      · rfl
      · split <;> rfl
  | externalLeave =>
      show d.externalLeave.calm = d.calm
      unfold externalLeave
      split <;> rfl
  | takeCommands => rfl
  | _ => cases hop

end Dock

end Docking
