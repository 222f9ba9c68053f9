import Docking.Proofs.Dock.Operation
import Docking.Proofs.Dock.Sound

/-!
# The book of a dock

What a dock knows of a tab is spread over two places: a docked tab has its title and its surface in
a panel, a floating one has them in its item. A *book* puts this together. It says of every open tab
what its title and its surface are and where they stay, and nothing else; trees, gestures and the
active panel do not occur in it.

An operation changes what the book says of one tab at most, and it queues commands that go with the
change. `Course` lists the ways in which this can happen. What holds of the content of tabs and of
their windows over whole runs is proved about courses of a book.

## Main definitions

* `Stay`, `Book`: where one tab stays, and all tabs.
* `Dock.Keeps`: a dock is as its book says.
* `Course`: what an operation does to a book, with the commands that it queues.

## Main results

* `Dock.Keeps.update`: what has to be known when one item and one place of the layout change.
-/

namespace Docking

/-! ## Books -/

/-- Where an open tab stays, with its title and its surface. -/
inductive Stay where
  | docked (panel : NodeId) (entry : TabEntry)
  | floating (window : Option Window) (entry : TabEntry)

namespace Stay

/-- The tab itself. -/
def entry : Stay → TabEntry
  | docked _ entry => entry
  | floating _ entry => entry

/-- The panel of a docked tab. -/
def panel? : Stay → Option NodeId
  | docked panel _ => some panel
  | floating .. => none

/-- The window of a floating tab, if it is known. -/
def window? : Stay → Option Window
  | docked .. => none
  | floating window _ => window

/-- The item that a dock keeps for the tab. -/
def item : Stay → Item
  | docked panel entry => ⟨entry.id, entry.title, entry.surface.plugin, .docked panel⟩
  | floating window entry =>
    ⟨entry.id, entry.title, entry.surface.plugin, .floating window entry.surface⟩

@[simp] theorem panel?_item (st : Stay) : st.item.panel? = st.panel? := by cases st <;> rfl

@[simp] theorem window?_item (st : Stay) : st.item.window? = st.window? := by cases st <;> rfl

@[simp] theorem plugin_item (st : Stay) : st.item.plugin = st.entry.surface.plugin := by
  cases st <;> rfl

/-- The commands that end a tab: its surface is taken down where it is shown and ended, and its
window is closed where it has one. -/
def farewell : Stay → List Command
  | docked _ entry => [.unmount entry.surface.id, .destroy entry.surface]
  | floating window entry => window.toList.map .closeWindow ++ [.destroy entry.surface]

end Stay

/-- Where all open tabs stay. -/
structure Book where
  /-- The number that the next tab will get. -/
  next : Nat
  stays : TabId → Option Stay

namespace Book

/-- The book without a tab. -/
def empty : Book := ⟨1, fun _ => none⟩

/-- The book with another stay of a tab, or with none. -/
def set (b : Book) (tab : TabId) (st : Option Stay) : Book :=
  { b with stays := fun j => if tab = j then st else b.stays j }

/-- The book with a new tab, which stays in a panel. -/
def enter (b : Book) (panel : NodeId) (title : String) (surface : Surface) : Book :=
  { b with next := b.next + 1 }.set ⟨b.next⟩ (some (.docked panel ⟨⟨b.next⟩, title, surface⟩))

theorem stays_set (b : Book) (tab j : TabId) (st : Option Stay) :
    (b.set tab st).stays j = if tab = j then st else b.stays j := rfl

@[simp] theorem stays_set_self (b : Book) (tab : TabId) (st : Option Stay) :
    (b.set tab st).stays tab = st := if_pos rfl

theorem stays_set_of_ne (b : Book) {tab j : TabId} (h : tab ≠ j) (st : Option Stay) :
    (b.set tab st).stays j = b.stays j := if_neg h

theorem set_eq_self {b : Book} {tab : TabId} {st : Option Stay} (h : b.stays tab = st) :
    b.set tab st = b := by
  refine congrArg (mk b.next) (funext fun j => ?_)
  split
  · next htab => rw [← htab, h]
  · rfl

/-- The window of a tab, if it floats and its window is known. -/
def window? (b : Book) (tab : TabId) : Option Window := (b.stays tab).bind Stay.window?

theorem window?_set (b : Book) (tab j : TabId) (st : Option Stay) :
    (b.set tab st).window? j = if tab = j then st.bind Stay.window? else b.window? j := by
  rw [window?, stays_set]
  split <;> rfl

end Book

/-! ## Courses -/

namespace Operation

/-- The title and the surface of the tab that an operation opens. -/
def content? : Operation → Option (String × Surface)
  | openTab title surface _ => some (title, surface)
  | dockNew title surface _ => some (title, surface)
  | _ => none

/-- Whether an operation can leave all tabs where they are without queueing more than repaints. -/
def mayRest : Operation → Bool
  | openTab .. | dockNew .. | attachWindow .. | dockFloating .. | externalDrop .. => false
  | _ => true

theorem content?_of_mayRest {op : Operation} (h : op.mayRest) : op.content? = none := by
  cases op <;> first | rfl | cases h

end Operation

namespace Command

/-- Whether a command asks for a repaint and for nothing else. -/
def isRedraw : Command → Bool
  | redraw => true
  | _ => false

/-- The commands that are not mere repaints. -/
def work (cs : List Command) : List Command := cs.filter fun c => !c.isRedraw

@[simp] theorem work_append (as bs : List Command) : work (as ++ bs) = work as ++ work bs :=
  List.filter_append ..

end Command

/-- An operation on a dock with the book `b` leads to a dock with another book, and queues some
commands besides repaints. -/
inductive Course (b : Book) : Operation → Book → List Command → Prop
  /-- Nothing happens. -/
  | rest {op : Operation} (hop : op.mayRest) : Course b op b []
  /-- The window of a floating tab is raised. -/
  | raise {op : Operation} (hop : op.mayRest) {tab : TabId} {window : Window} {entry : TabEntry}
      (h : b.stays tab = some (.floating (some window) entry)) :
      Course b op b [.raiseWindow window]
  /-- A tab is opened. -/
  | enter {op : Operation} {title : String} {surface : Surface}
      (hop : op.content? = some (title, surface)) (hnew : b.stays ⟨b.next⟩ = none)
      (panel : NodeId) : Course b op (b.enter panel title surface) [.mount surface.id panel]
  /-- A tab is closed. -/
  | close {tab : TabId} {st : Stay} (h : b.stays tab = some st) :
      Course b (.closeTab tab) (b.set tab none) st.farewell
  /-- A docked tab is moved. -/
  | move {op : Operation} (hop : op.mayRest) {tab : TabId} {source : NodeId} {entry : TabEntry}
      (h : b.stays tab = some (.docked source entry)) (panel : NodeId) :
      Course b op (b.set tab (some (.docked panel entry)))
        [.unmount entry.surface.id, .mount entry.surface.id panel]
  /-- A docked tab begins to float. -/
  | float {op : Operation} (hop : op.mayRest) {tab : TabId} {source : NodeId} {entry : TabEntry}
      (h : b.stays tab = some (.docked source entry)) :
      Course b op (b.set tab (some (.floating none entry)))
        [.unmount entry.surface.id, .detachWindow tab entry.surface.plugin]
  /-- A floating tab gets a window. -/
  | attach {tab : TabId} {window : Window} {old : Option Window} {entry : TabEntry}
      (h : b.stays tab = some (.floating old entry)) :
      Course b (.attachWindow tab window) (b.set tab (some (.floating (some window) entry))) []
  /-- A window is turned away, because its tab does not float. -/
  | refuse {tab : TabId} {window : Window}
      (h : ∀ old entry, b.stays tab ≠ some (.floating old entry)) :
      Course b (.attachWindow tab window) b [.closeWindow window]
  /-- A floating tab is docked, and whoever asked for that gets its window. -/
  | land {tab : TabId} {target : Option DropTarget} {window : Option Window} {entry : TabEntry}
      (h : b.stays tab = some (.floating window entry)) (panel : NodeId) :
      Course b (.dockFloating tab target) (b.set tab (some (.docked panel entry)))
        [.mount entry.surface.id panel]
  /-- A tab that does not float is asked to land. -/
  | miss {tab : TabId} {target : Option DropTarget}
      (h : ∀ window entry, b.stays tab ≠ some (.floating window entry)) :
      Course b (.dockFloating tab target) b []
  /-- The window of a floating tab is dropped: the tab is docked and the window closed. -/
  | drop {plugin : String} {point : Point} {tab : TabId} {window : Window} {entry : TabEntry}
      (h : b.stays tab = some (.floating (some window) entry)) (panel : NodeId) :
      Course b (.externalDrop ⟨plugin, some window⟩ point) (b.set tab (some (.docked panel entry)))
        [.mount entry.surface.id panel, .closeWindow window]
  /-- Something else is dropped: a new tab is asked for, and the window, if one is named, is to be
  closed. -/
  | request {payload : Payload} {point : Point} (target : Option DropTarget)
      (h : ∀ window ∈ payload.window, ∀ tab st, b.stays tab = some st →
        st.window? ≠ some window) :
      Course b (.externalDrop payload point) b
        (.instantiate payload.plugin target :: payload.window.toList.map .closeWindow)

/-- An operation that is given content opens a tab. -/
theorem Course.enters {b b' : Book} {op : Operation} {cmds : List Command} {title : String}
    {surface : Surface} (hop : op.content? = some (title, surface)) (h : Course b op b' cmds) :
    b.stays ⟨b.next⟩ = none ∧ ∃ panel, b' = b.enter panel title surface ∧
      cmds = [.mount surface.id panel] := by
  have hrest (hop' : op.mayRest) : False := by
    rw [Operation.content?_of_mayRest hop'] at hop
    cases hop
  cases h with
  | enter hop' hnew panel =>
      rw [hop] at hop'
      cases hop'
      exact ⟨hnew, panel, rfl, rfl⟩
  | rest hop' | raise hop' | move hop' | float hop' => exact (hrest hop').elim
  | _ => cases hop

/-! ## Docks and their books -/

namespace Dock

open Layout hiding id

/-- A dock is as the book says: items and panels agree with it, and there are no others. -/
structure Keeps (d : Dock) (l : Layout) (b : Book) : Prop extends d.Sound l where
  next : d.nextTab = b.next
  item : ∀ tab, d.item? tab = (b.stays tab).map Stay.item
  entry : ∀ {panel x}, l.Has panel x ↔ b.stays x.id = some (.docked panel x)
  named : ∀ {tab st}, b.stays tab = some st → st.entry.id = tab

section Keeps

variable {d e : Dock} {l m : Layout} {b : Book} {tab : TabId} {panel : NodeId} {entry : TabEntry}

theorem keeps_new (settings : DragSettings) :
    (new settings).Keeps (.panel ⟨1⟩ .empty) .empty where
  toSound := sound_new settings
  next := rfl
  item := fun tab => rfl
  entry := by
    intro panel x
    rw [has_panel]
    simp [Panel.empty, Book.empty]
  named := fun h => by cases h

/-- Only the tree, the items and the counter of tabs matter. -/
theorem Keeps.congr (h : d.Keeps l b) (htree : e.tree = d.tree) (hitems : e.items = d.items)
    (hnext : e.nextTab = d.nextTab) : e.Keeps l b :=
  { h with
    toSound := h.toSound.congr htree hitems hnext
    next := hnext.trans h.next
    item := fun tab => by
      rw [item?, hitems]
      exact h.item tab }

theorem Keeps.emit (h : d.Keeps l b) (c : Command) : (d.emit c).Keeps l b := h.congr rfl rfl rfl

/-- Where a tab stays can be read off its item. -/
theorem Keeps.exists_stay (h : d.Keeps l b) {i : Item} (hitem : d.item? tab = some i) :
    ∃ st, b.stays tab = some st ∧ i = st.item := by
  rw [h.item, Option.map_eq_some_iff] at hitem
  obtain ⟨st, hst, hi⟩ := hitem
  exact ⟨st, hst, hi.symm⟩

theorem Keeps.item_of_stay (h : d.Keeps l b) {st : Stay} (hst : b.stays tab = some st) :
    d.item? tab = some st.item := by
  rw [h.item, hst]
  rfl

theorem Keeps.panelOf?_eq (h : d.Keeps l b) (tab : TabId) :
    d.panelOf? tab = (b.stays tab).bind Stay.panel? := by
  rw [panelOf?, h.item]
  cases b.stays tab <;> simp

/-- A floating item stands for a floating tab. -/
theorem Keeps.stays_of_floating (h : d.Keeps l b) {i : Item} {window : Option Window}
    {surface : Surface} (hitem : d.item? tab = some i)
    (hplacement : i.placement = .floating window surface) :
    b.stays tab = some (.floating window ⟨tab, i.title, surface⟩) ∧ i.plugin = surface.plugin := by
  obtain ⟨st, hst, rfl⟩ := h.exists_stay hitem
  cases st with
  | docked panel x => cases hplacement
  | floating window' x =>
      cases hplacement
      obtain rfl : x.id = tab := h.named hst
      exact ⟨hst, rfl⟩

/-- A tab in a panel stays there. -/
theorem Keeps.stays_of_mem (h : d.Keeps l b) {p : Panel} (hp : (panel, p) ∈ l.panels)
    (hentry : entry ∈ p.tabs) : b.stays entry.id = some (.docked panel entry) :=
  h.entry.1 ⟨p, hp, hentry⟩

/-- A tab that stays in no panel is in none. -/
theorem Keeps.id_ne_of_has (h : d.Keeps l b) (hst : (b.stays tab).bind Stay.panel? = none)
    (hentry : l.Has panel entry) : entry.id ≠ tab := by
  rintro rfl
  rw [h.entry.1 hentry] at hst
  cases hst

/-- One tab gets another stay, or none: its item changes, and so does its place in the layout. -/
theorem Keeps.update (h : d.Keeps l b) (hs : e.Sound m) {n : Nat} (hnext : e.nextTab = n)
    (st : Option Stay) (hself : ∀ s ∈ st, s.entry.id = tab)
    (hitem : ∀ j, e.item? j = if tab = j then st.map Stay.item else d.item? j)
    (hhas : ∀ {j x}, m.Has j x ↔ l.Has j x ∧ x.id ≠ tab ∨ st = some (.docked j x)) :
    e.Keeps m ({ b with next := n }.set tab st) where
  toSound := hs
  next := hnext
  item := by
    intro j
    rw [hitem, Book.stays_set]
    split
    · rfl
    · exact h.item j
  entry := by
    intro j x
    have hid : st = some (.docked j x) → x.id = tab := fun hst => hself _ hst
    rw [hhas, h.entry, Book.stays_set]
    by_cases htab : tab = x.id
    · simp [htab]
    · simp only [if_neg htab]
      constructor
      · rintro (⟨hx, -⟩ | hst)
        · exact hx
        · exact absurd (hid hst).symm htab
      · exact fun hx => .inl ⟨hx, fun e => htab e.symm⟩
  named := by
    intro j s hj
    rw [Book.stays_set] at hj
    split at hj
    · next htab => exact (hself s hj).trans htab
    · exact h.named hj

/-- A tab that was in no panel has landed. -/
theorem Keeps.landed (h : d.Keeps l b) (hs : e.Sound m) {n : Nat} (hnext : e.nextTab = n)
    {k : Layout} (hk : ∀ {j x}, k.Has j x ↔ l.Has j x ∧ x.id ≠ entry.id) (hnodup : k.ids.Nodup)
    {next : Nat} {activate : Bool} {target : Option DropTarget}
    (hlands : k.Lands next entry activate target panel m)
    (hitem : ∀ j, e.item? j =
      if entry.id = j then some (Stay.docked panel entry).item else d.item? j) :
    e.Keeps m ({ b with next := n }.set entry.id (some (.docked panel entry))) := by
  refine h.update hs hnext (some (.docked panel entry)) ?_ hitem ?_
  · intro s hst
    cases hst
    rfl
  · intro j x
    rw [hlands.has hnodup, hk, Option.some_inj, Stay.docked.injEq, eq_comm (a := j),
      eq_comm (a := x)]

/-- A tab is in no panel now. -/
private theorem Keeps.outside (h : d.Keeps l b) (hs : e.Sound m) (hnext : e.nextTab = d.nextTab)
    (hhas : ∀ {j x}, m.Has j x ↔ l.Has j x ∧ x.id ≠ tab) (st : Option Stay)
    (hself : ∀ s ∈ st, s.entry.id = tab ∧ s.panel? = none)
    (hitem : ∀ j, e.item? j = if tab = j then st.map Stay.item else d.item? j) :
    e.Keeps m (b.set tab st) := by
  refine h.update hs (hnext.trans h.next) st (fun s hst => (hself s hst).1) hitem ?_
  intro j x
  have hst : st ≠ some (.docked j x) := by
    rintro rfl
    exact absurd (hself _ rfl).2 (by simp [Stay.panel?])
  rw [hhas, or_iff_left hst]

/-- A tab has left its panel, for good or to float. -/
theorem Keeps.left (h : d.Keeps l b) {p : Panel} (hp : (panel, p) ∈ l.panels)
    (htab : tab ∈ p.tabIds) (hs : e.Sound (l.vacate panel (p.without tab)))
    (hnext : e.nextTab = d.nextTab) (st : Option Stay)
    (hself : ∀ s ∈ st, s.entry.id = tab ∧ s.panel? = none)
    (hitem : ∀ j, e.item? j = if tab = j then st.map Stay.item else d.item? j) :
    e.Keeps (l.vacate panel (p.without tab)) (b.set tab st) :=
  h.outside hs hnext (has_vacate h.tidy h.nodup hp htab) st hself hitem

/-- A tab that was in no panel is in none now either. -/
theorem Keeps.aside (h : d.Keeps l b) (hst : (b.stays tab).bind Stay.panel? = none)
    (hs : e.Sound l) (hnext : e.nextTab = d.nextTab) (st : Option Stay)
    (hself : ∀ s ∈ st, s.entry.id = tab ∧ s.panel? = none)
    (hitem : ∀ j, e.item? j = if tab = j then st.map Stay.item else d.item? j) :
    e.Keeps l (b.set tab st) :=
  h.outside hs hnext (and_iff_left_of_imp (h.id_ne_of_has hst)).symm st hself hitem

end Keeps

end Dock

end Docking
