import Docking.Proofs.Dock.Steps

/-!
# No fallback is ever taken

The operations of a dock have arms for what should not happen. A layout without a panel starts over,
a tab that finds no place beside a panel goes to another one, a tab that a panel holds already is
given up, a panel that can not be removed stays. Each of them loses a tab, or gives out names again
that are in use.

The strict operations of this module are the same without these arms: where one would be taken there
is no result. They leave out

* a layout without a panel, in `Strict.defaultPanel`,
* a panel that is gone or has the tab already, in `Strict.addToPanel`,
* a split that is refused, in `Strict.splitWith`,
* a tab that is not in its panel and a panel that can not be removed, in `Strict.detach`,
* a pruning that stops before all empty panels are removed, in `Strict.prune`.

## Main results

* `Sound.apply_strict`: on a sound dock the strict operations have a result, which is the same.
* `run_strict`: so have they after every run, and a snapshot of the layout misses no node.
-/

namespace Docking

namespace Strict

/-- Removes a panel, if that is not refused. -/
def removePanel (t : Tree) (id : NodeId) : Option Tree :=
  match t.removePanel id with
  | (.ok _, t) => some t
  | (.error _, _) => none

/-- Removes the first empty panel, at most `rounds` times, if every removal succeeds and no empty
panel is left. -/
def pruneRounds : (rounds : Nat) → Tree → Option (Nat × Tree)
  | 0, t => if t.emptyPanel?.isSome then none else some (0, t)
  | rounds + 1, t =>
    match t.emptyPanel? with
    | none => some (0, t)
    | some id =>
      match t.removePanel id with
      | (.ok true, t) => (pruneRounds rounds t).map fun x => (x.1 + 1, x.2)
      | _ => none

/-- Removes empty panels until none is left besides the root, if every removal succeeds. -/
def prune (t : Tree) : Option (Nat × Tree) :=
  (pruneRounds t.size t).map fun x => (x.1, if x.1 > 0 then x.2.relayout else x.2)

/-! ## Placing and taking out tabs -/

/-- The active panel if it is still there, or else the first one. -/
def defaultPanel (d : Dock) : Option NodeId :=
  match d.activePanel.filter fun p => (d.tree.panel? p).isSome with
  | some panel => some panel
  | none => d.tree.firstPanel?

/-- Adds a tab to a panel that is there and does not hold it yet. -/
def addToPanel (d : Dock) (panel : NodeId) (entry : TabEntry) (activate : Bool) : Option Dock :=
  match d.tree.panel? panel with
  | none => none
  | some p =>
    match p.addTab entry activate with
    | (.error _, _) => none
    | (.ok (), p) =>
      some { d with
        tree := d.tree.setPanel panel p
        activePanel := if p.active = some entry.id then some panel else d.activePanel }

/-- Gives a tab a panel of its own beside `target`, which can be split. -/
def splitWith (d : Dock) (entry : TabEntry) (target : NodeId) (orientation : Orientation)
    (newFirst : Bool) : Option (NodeId × Dock) :=
  let (panel, tree) := d.tree.insertPanel (.single entry)
  match tree.splitPanel target panel orientation newFirst with
  | (.ok _, tree) => some (panel, { d with tree, activePanel := some panel })
  | (.error _, _) => none

/-- Puts a tab where a drop would put it. -/
def putEntry (d : Dock) (entry : TabEntry) (target : Option DropTarget) (activate : Bool) :
    Option (NodeId × Dock) :=
  match target.filter fun t => (d.tree.panel? t.panel).isSome with
  | some ⟨panel, zone⟩ =>
    match zone.orientation? with
    | some orientation => splitWith d entry panel orientation zone.newFirst
    | none => (addToPanel d panel entry true).map fun d => (panel, d)
  | none =>
    (defaultPanel d).bind fun panel =>
      (addToPanel d panel entry activate).map fun d => (panel, d)

def placeEntry (d : Dock) (entry : TabEntry) (target : Option DropTarget) (activate : Bool) :
    Option (NodeId × Dock) :=
  (putEntry d entry target activate).map fun x =>
    (x.1, x.2.emit (.mount entry.surface.id x.1))

/-- Takes a tab out of a panel that holds it. A panel that is left empty can be removed, unless it
is the root, and so can all other empty panels. -/
def detach (d : Dock) (tab : TabId) (panel : NodeId) : Option (TabEntry × Dock) :=
  match d.tree.panel? panel with
  | none => none
  | some p =>
    match p.removeTab tab with
    | (none, _) => none
    | (some entry, p) =>
      let d := { d with tree := d.tree.setPanel panel p }.emit (.unmount entry.surface.id)
      let tree :=
        if p.isEmpty && decide (panel ≠ d.tree.root) then removePanel d.tree panel else some d.tree
      (tree.bind prune).map fun x => (entry, { d with tree := x.2 })

/-! ## Operations, which have no result where a part of them has none -/

def register (d : Dock) (title : String) (surface : Surface) (target : Option DropTarget)
    (activate : Bool) : Option (TabId × Dock) :=
  let id : TabId := ⟨d.nextTab⟩
  let d := { d with nextTab := d.nextTab + 1 }
  (placeEntry d ⟨id, title, surface⟩ target activate).map fun (panel, d) =>
    (id, { d with items := d.items.insert id ⟨id, title, surface.plugin, .docked panel⟩ }.finish)

def closeTab (d : Dock) (tab : TabId) : Option Dock :=
  match d.item? tab with
  | none => some d
  | some item =>
    let d := { d with items := d.items.erase tab }
    match item.placement with
    | .docked panel =>
      (detach d tab panel).map fun (entry, d) => (d.emit (.destroy entry.surface)).finish
    | .floating window surface =>
      let d := window.elim d fun w => d.emit (.closeWindow w)
      some (d.emit (.destroy surface)).finish

def cycleTab (d : Dock) (forward : Bool) : Option Dock :=
  (defaultPanel d).map fun panel =>
    match d.tree.panel? panel with
    | none => d
    | some p =>
      match p.cycle forward with
      | (none, p) => { d with tree := d.tree.setPanel panel p }
      | (some _, p) =>
        { d with tree := d.tree.setPanel panel p, activePanel := some panel }.emit .redraw

def floatTab (d : Dock) (tab : TabId) : Option Dock :=
  match d.item? tab with
  | none => some d
  | some item =>
    match item.panel? with
    | none => some d
    | some panel =>
      (detach d tab panel).map fun (entry, d) =>
        ((d.setPlacement tab (.floating none entry.surface)).emit
          (.detachWindow tab item.plugin)).finish

def moveTab (d : Dock) (tab : TabId) (target : DropTarget) : Option (Bool × Dock) :=
  match d.panelOf? tab, d.tree.panel? target.panel with
  | some source, some panel =>
    if Dock.dropsOnItself source target panel then some (false, d)
    else
      (detach d tab source).bind fun (entry, d) =>
        (placeEntry d entry (some target) true).map fun (panel, d) =>
          (true, (d.setPlacement tab (.docked panel)).finish)
  | _, _ => some (false, d)

def dockFloating (d : Dock) (tab : TabId) (target : Option DropTarget) :
    Option (Option Window × Dock) :=
  match d.item? tab with
  | none => some (none, d)
  | some item =>
    let d := { d with items := d.items.erase tab }
    match item.placement with
    | .docked _ => some (none, { d with items := d.items.insert tab item })
    | .floating window surface =>
      (placeEntry d ⟨tab, item.title, surface⟩ target true).map fun (panel, d) =>
        let items := d.items.insert tab { item with placement := .docked panel }
        (window, { d with items }.finish)

def pointerUp (d : Dock) : Option Dock :=
  match d.gesture with
  | none => some d
  | some g =>
    let d := d.dropGesture
    match g.kind, g.tab with
    | .tab, some tab =>
      if g.dragging then
        match g.target with
        | none => (floatTab d tab).map fun d => d.emit .redraw
        | some target => (moveTab d tab target).map fun x => x.2.emit .redraw
      else some (d.activateTab tab)
    | _, _ => some (d.emit .redraw)

def dropWindow (d : Dock) (payload : Payload) (shown : Option TabId) (point : Point) :
    Option Dock :=
  let d := if d.externalDrag then d.dropGesture else d
  let target := (d.hitTest point).map Prod.fst
  let dropped :=
    match shown with
    | some tab => (dockFloating d tab target).map Prod.snd
    | none => some (d.emit (.instantiate payload.plugin target))
  dropped.map fun d => (payload.window.elim d fun w => d.emit (.closeWindow w)).emit .redraw

/-- The dock after an operation, if no fallback is taken on the way. The operations that are not
named here have none. -/
def apply (d : Dock) : Operation → Option Dock
  | .openTab title surface activate => (register d title surface none activate).map Prod.snd
  | .dockNew title surface target => (register d title surface target true).map Prod.snd
  | .closeTab tab => closeTab d tab
  | .cycleTab forward => cycleTab d forward
  | .floatTab tab => floatTab d tab
  | .moveTab tab target => (moveTab d tab target).map Prod.snd
  | .dockFloating tab target => (dockFloating d tab target).map Prod.snd
  | .pointerUp => pointerUp d
  | .externalDrop payload point =>
    dropWindow d payload (payload.window.bind d.findWindow) point
  | op => some (d.apply op)

end Strict

/-! ## Pruning -/

namespace Tree

open Layout hiding id

/-- Pruning a tree that holds a layout goes on until no empty panel is left. -/
theorem pruneRounds_strict {t : Tree} {l : Layout} (h : t.Holds l) {rounds : Nat}
    (hrounds : l.ids.length ≤ rounds) :
    Strict.pruneRounds rounds t = some (pruneRounds rounds t) := by
  induction rounds generalizing t l with
  | zero =>
      have := List.length_pos_of_mem l.id_mem_ids
      omega
  | succ rounds ih =>
      rw [Strict.pruneRounds, pruneRounds]
      rcases pruneRound h with ⟨hempty, -⟩ | ⟨id, u, m, hempty, hu, hround⟩
      · rw [hempty]
      · rw [hempty]
        have := hround.ids
        simp only [hu, ih hround.holds (by omega), Option.map_some]

theorem prune_strict {t : Tree} {l : Layout} (h : t.Holds l) : Strict.prune t = some t.prune := by
  rw [Strict.prune, pruneRounds_strict h h.length_ids_le]
  rfl

end Tree

/-! ## On sound docks -/

namespace Dock

open Layout hiding id

section Placing

variable {d : Dock} {l : Layout} {panel : NodeId} {p : Panel} {entry : TabEntry}

theorem defaultPanel_strict (h : d.tree.Holds l) :
    Strict.defaultPanel d = some d.defaultPanel.1 ∧ d.defaultPanel.2 = d := by
  unfold Strict.defaultPanel defaultPanel
  cases d.activePanel.filter fun p => (d.tree.panel? p).isSome with
  | some panel => exact ⟨rfl, rfl⟩
  | none =>
      rw [h.firstPanel?_eq]
      exact ⟨rfl, rfl⟩

theorem addToPanel_strict (h : d.tree.Holds l) (hp : (panel, p) ∈ l.panels)
    (hnew : entry.id ∉ l.tabIds) (activate : Bool) :
    Strict.addToPanel d panel entry activate = some (d.addToPanel panel entry activate) := by
  have hpanel : d.tree.panel? panel = some p := h.panel?_of_mem hp
  have hfree : entry.id ∉ p.tabIds := fun hm => hnew (mem_tabIds.2 ⟨panel, p, hp, hm⟩)
  simp only [Strict.addToPanel, addToPanel, hpanel, Panel.addTab_eq hfree]

theorem splitWith_strict (h : d.tree.Holds l) (hp : (panel, p) ∈ l.panels) (entry : TabEntry)
    (o : Orientation) (first : Bool) :
    Strict.splitWith d entry panel o first = some (d.splitWith entry panel o first) := by
  obtain ⟨u, hu, -⟩ := Tree.splitPanel_holds h hp (.single entry) o first
  have hname : (d.tree.insertPanel (.single entry)).1 = ⟨d.tree.nextNode⟩ := rfl
  simp only [Strict.splitWith, splitWith, hname, hu]

theorem placeEntry_strict (h : d.tree.Holds l) (entry : TabEntry) (hnew : entry.id ∉ l.tabIds)
    (target : Option DropTarget) (activate : Bool) :
    Strict.placeEntry d entry target activate = some (d.placeEntry entry target activate) := by
  suffices hput :
      Strict.putEntry d entry target activate = some (d.putEntry entry target activate) by
    rw [Strict.placeEntry, hput]
    rfl
  unfold Strict.putEntry putEntry
  cases hfilter : target.filter fun t => (d.tree.panel? t.panel).isSome with
  | none =>
      obtain ⟨panel, p, hdefault, hp⟩ := defaultPanel_eq h
      obtain ⟨hstrict, -⟩ := defaultPanel_strict h
      simp only [hstrict, hdefault, Option.bind_some, addToPanel_strict h hp hnew, Option.map_some]
  | some t =>
      obtain ⟨panel, zone⟩ := t
      obtain ⟨-, hpanel⟩ := Option.filter_eq_some_iff.1 hfilter
      obtain ⟨p, hp⟩ := Option.isSome_iff_exists.1 hpanel
      have hp : (panel, p) ∈ l.panels := h.panel?_eq_some_iff.1 hp
      cases hzone : zone.orientation? with
      | some o => simp only [hzone, splitWith_strict h hp]
      | none => simp only [hzone, addToPanel_strict h hp hnew, Option.map_some]

theorem detach_strict (h : d.tree.Holds l) (ht : l.Tidy) (hp : (panel, p) ∈ l.panels)
    {tab : TabId} (htab : tab ∈ p.tabIds) :
    Strict.detach d tab panel =
      (d.detach tab panel).1.map fun entry => (entry, (d.detach tab panel).2) := by
  obtain ⟨entry, -, -, hremove⟩ := Panel.removeTab_eq htab (ht.nodup_panel hp)
  have hpanel : d.tree.panel? panel = some p := h.panel?_of_mem hp
  let t := d.tree.setPanel panel (p.without tab)
  have ht : t.Holds (l.graft panel fun _ => .panel panel (p.without tab)) :=
    Tree.setPanel_holds h hp (p.without tab)
  have hremoved : ∃ u m,
      (if (p.without tab).isEmpty && decide (panel ≠ t.root) then Strict.removePanel t panel
        else some t) = some u ∧
      (if (p.without tab).isEmpty && decide (panel ≠ t.root) then (t.removePanel panel).2
        else t) = u ∧ u.Holds m := by
    split
    · next he =>
      simp only [Bool.and_eq_true, decide_eq_true_eq] at he
      have hmem : (panel, p.without tab) ∈
          (l.graft panel fun _ => .panel panel (p.without tab)).panels :=
        (mem_panels_graft h.nodup hp).2 (.inr (by simp [panels]))
      obtain ⟨u, hu, hholds, -⟩ := Tree.removePanel_holds ht hmem (ht.root ▸ he.2)
      exact ⟨u, _, by rw [Strict.removePanel, hu], by rw [hu], hholds⟩
    · exact ⟨t, _, rfl, rfl, ht⟩
  obtain ⟨u, m, hstrict, hplain, hholds⟩ := hremoved
  simp only [Strict.detach, detach, hpanel, hremove, Option.map_some]
  show ((if (p.without tab).isEmpty && decide (panel ≠ t.root) then Strict.removePanel t panel
    else some t).bind Strict.prune).map _ = some (_, { d with
      tree := (if (p.without tab).isEmpty && decide (panel ≠ t.root) then (t.removePanel panel).2
        else t).prune.2
      outbox := _ })
  rw [hstrict, hplain, Option.bind_some, Tree.prune_strict hholds]
  rfl

end Placing

section Operations

variable {d : Dock} {l : Layout} {tab : TabId}

theorem register_strict (h : d.Sound l) (title : String) (surface : Surface)
    (target : Option DropTarget) (activate : Bool) :
    Strict.register d title surface target activate =
      some (d.register title surface target activate) := by
  have hplace := placeEntry_strict (d := { d with nextTab := d.nextTab + 1 }) h.holds
    ⟨⟨d.nextTab⟩, title, surface⟩ h.next_notMem target activate
  simp only [Strict.register, hplace, Option.map_some]
  rfl

theorem closeTab_strict (h : d.Sound l) (tab : TabId) :
    Strict.closeTab d tab = some (d.closeTab tab) := by
  unfold Strict.closeTab closeTab
  cases hitem : d.item? tab with
  | none => rfl
  | some i =>
      cases hplacement : i.placement with
      | floating window surface => simp only [hplacement]
      | docked panel =>
          obtain ⟨p, hp, htab⟩ :=
            h.exists_panel (panelOf?_eq_some_iff.2 ⟨i, hitem, hplacement⟩)
          have hstrict :=
            detach_strict (d := { d with items := d.items.erase tab }) h.holds h.tidy hp htab
          obtain ⟨entry, u, hdetach, -⟩ :=
            detach_eq (d := { d with items := d.items.erase tab }) h.holds h.tidy hp htab
          simp only [hplacement, hstrict, hdetach, Option.map_some]

theorem cycleTab_strict (h : d.Sound l) (forward : Bool) :
    Strict.cycleTab d forward = some (d.cycleTab forward) := by
  obtain ⟨hstrict, hsame⟩ := defaultPanel_strict h.holds
  cases hpanel : d.tree.panel? d.defaultPanel.1 with
  | none => simp only [Strict.cycleTab, cycleTab, hstrict, hsame, hpanel, Option.map_some]
  | some p =>
      cases hcycle : p.cycle forward with
      | mk shown q =>
          cases shown <;>
            simp only [Strict.cycleTab, cycleTab, hstrict, hsame, hpanel, hcycle, Option.map_some]

theorem floatTab_strict (h : d.Sound l) (tab : TabId) :
    Strict.floatTab d tab = some (d.floatTab tab) := by
  unfold Strict.floatTab floatTab
  cases hitem : d.item? tab with
  | none => rfl
  | some i =>
      cases hpanel : i.panel? with
      | none => simp only [hpanel]
      | some panel =>
          obtain ⟨p, hp, htab⟩ := h.exists_panel (panelOf?_eq_some_iff.2
            ⟨i, hitem, Item.panel?_eq_some_iff.1 hpanel⟩)
          have hstrict := detach_strict h.holds h.tidy hp htab
          obtain ⟨entry, u, hdetach, -⟩ := detach_eq h.holds h.tidy hp htab
          simp only [hpanel, hstrict, hdetach, Option.map_some]

theorem moveTab_strict (h : d.Sound l) (tab : TabId) (target : DropTarget) :
    Strict.moveTab d tab target = some (d.moveTab tab target) := by
  unfold Strict.moveTab moveTab
  cases hsource : d.panelOf? tab with
  | none => rfl
  | some source =>
      cases htarget : d.tree.panel? target.panel with
      | none => rfl
      | some q =>
          by_cases hself : dropsOnItself source target q
          · simp only [hself, if_true]
          · obtain ⟨p, hp, htab⟩ := h.exists_panel hsource
            have hstrict := detach_strict h.holds h.tidy hp htab
            obtain ⟨entry, u, hdetach, -, rfl, hholds, -⟩ := detach_eq h.holds h.tidy hp htab
            have hnew := notMem_tabIds_vacate h.tidy h.nodup hp htab
            have hplace := placeEntry_strict
              (d := { d with tree := u, outbox := d.outbox ++ [.unmount entry.surface.id] })
              hholds entry hnew (some target) true
            simp only [hself, hstrict, hdetach, hplace, Bool.false_eq_true, if_false,
              Option.bind_some, Option.map_some]

theorem dockFloating_strict (h : d.Sound l) (tab : TabId) (target : Option DropTarget) :
    Strict.dockFloating d tab target = some (d.dockFloating tab target) := by
  unfold Strict.dockFloating dockFloating
  cases hitem : d.item? tab with
  | none => rfl
  | some i =>
      cases hplacement : i.placement with
      | docked panel => simp only [hplacement]
      | floating window surface =>
          have hnew := h.notMem_tabIds (panelOf?_of_floating hitem hplacement)
          have hplace := placeEntry_strict (d := { d with items := d.items.erase tab }) h.holds
            ⟨tab, i.title, surface⟩ hnew target true
          simp only [hplacement, hplace, Option.map_some]

theorem pointerUp_strict (h : d.Sound l) : Strict.pointerUp d = some d.pointerUp := by
  have hdropped : d.dropGesture.Sound l := h.congr rfl rfl rfl
  unfold Strict.pointerUp pointerUp
  cases d.gesture with
  | none => rfl
  | some g =>
      obtain ⟨kind, held, source, origin, pointer, dragging, target, indicator⟩ := g
      cases kind with
      | external => rfl
      | tab =>
          cases held with
          | none => rfl
          | some tab =>
              cases dragging with
              | false => rfl
              | true =>
                  cases target with
                  | none => simp only [if_true, floatTab_strict hdropped, Option.map_some]
                  | some target => simp only [if_true, moveTab_strict hdropped, Option.map_some]

theorem dropWindow_strict (h : d.Sound l) (payload : Payload) (shown : Option TabId)
    (point : Point) :
    Strict.dropWindow d payload shown point = some (d.dropWindow payload shown point) := by
  unfold Strict.dropWindow dropWindow
  have hsound : (if d.externalDrag then d.dropGesture else d).Sound l := by
    split
    · exact h.congr rfl rfl rfl
    · exact h
  generalize (if d.externalDrag then d.dropGesture else d) = e at hsound
  dsimp only
  cases shown with
  | none => rfl
  | some tab =>
      simp only [dockFloating_strict hsound, Option.map_some]

/-- On a sound dock no fallback is taken. -/
theorem Sound.apply_strict (h : d.Sound l) (op : Operation) :
    Strict.apply d op = some (d.apply op) := by
  cases op with
  | openTab title surface activate =>
      rw [Strict.apply, register_strict h]
      rfl
  | dockNew title surface target =>
      rw [Strict.apply, register_strict h]
      rfl
  | closeTab tab => exact closeTab_strict h tab
  | cycleTab forward => exact cycleTab_strict h forward
  | floatTab tab => exact floatTab_strict h tab
  | moveTab tab target =>
      rw [Strict.apply, moveTab_strict h]
      rfl
  | dockFloating tab target =>
      rw [Strict.apply, dockFloating_strict h]
      rfl
  | pointerUp => exact pointerUp_strict h
  | externalDrop payload point => exact dropWindow_strict h payload _ point
  | setViewport | activateTab | attachWindow | pointerDown | pointerMove | cancelDrag | externalOver
  | externalLeave | takeCommands => rfl

-- a dock that has lost its panels takes one: it starts over
example :
    let broken := { new .standard with tree := Tree.new.dropNode ⟨1⟩ }
    Strict.apply broken (.openTab "A" ⟨⟨1⟩, "p"⟩ true) = none ∧
      (broken.apply (.openTab "A" ⟨⟨1⟩, "p"⟩ true)).panelOf? ⟨1⟩ = some ⟨1⟩ := by
  exact ⟨rfl, rfl⟩

/-- After every run, no operation takes a fallback on its way, whatever its arguments are, and a
snapshot of the layout misses no node. -/
theorem run_strict (settings : DragSettings) (ops : List Operation) :
    (∀ op, Strict.apply ((new settings).run ops) op = some (((new settings).run ops).apply op)) ∧
      ((new settings).run ops).tree.snapshot?.isSome := by
  obtain ⟨l, h⟩ := run_sound settings ops
  exact ⟨h.apply_strict, h.holds.snapshot?_isSome⟩

end Operations

end Dock

end Docking
