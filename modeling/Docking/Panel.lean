import Docking.Ident

/-!
# Panels

A panel is a leaf of the layout: tabs in the order in which they were added, at most one of them
active. A panel holds no two tabs of one name, because `addTab` hands the second one back. A call
returns its answer and the panel that it leaves, also where it fails.
-/

namespace Docking

/-- A tab as a panel holds it. -/
structure TabEntry where
  id : TabId
  title : String
  surface : Surface
  deriving DecidableEq, Repr

/-- An ordered row of tabs with an active one. -/
structure Panel where
  /-- The tabs, from left to right. -/
  tabs : List TabEntry
  /-- The tab whose content is shown. -/
  active : Option TabId
  deriving DecidableEq, Repr

namespace Panel

/-- The panel without a tab. -/
def empty : Panel := ⟨[], none⟩

instance : Inhabited Panel := ⟨empty⟩

/-- The panel with one tab, which is active. -/
def single (entry : TabEntry) : Panel := ⟨[entry], some entry.id⟩

/-- The names of the tabs, in their order. -/
def tabIds (p : Panel) : List TabId := p.tabs.map TabEntry.id

/-- The tab of a name. -/
def tab? (p : Panel) (id : TabId) : Option TabEntry := p.tabs.find? (fun t => t.id == id)

/-- Whether a tab is in the panel. -/
def contains (p : Panel) (id : TabId) : Bool := p.tabs.any (fun t => t.id == id)

/-- Whether there is no tab. -/
def isEmpty (p : Panel) : Bool := p.tabs.isEmpty

/-- Adds a tab at the end. It becomes active if that is asked for, or if no tab was active. A tab
whose name is taken is handed back. -/
def addTab (p : Panel) (entry : TabEntry) (activate : Bool) : Except TabEntry Unit × Panel :=
  if p.contains entry.id then (.error entry, p)
  else
    (.ok (),
      ⟨p.tabs ++ [entry], if activate || p.active.isNone then some entry.id else p.active⟩)

/-- Takes a tab out and hands it back. If it was active, the first remaining tab becomes active. -/
def removeTab (p : Panel) (id : TabId) : Option TabEntry × Panel :=
  match p.tab? id with
  | none => (none, p)
  | some entry =>
    let tabs := p.tabs.eraseP (fun t => t.id == id)
    (some entry, ⟨tabs, if p.active = some id then tabs.head?.map TabEntry.id else p.active⟩)

/-- Makes a tab active, and tells whether it is in the panel. -/
def activate (p : Panel) (id : TabId) : Bool × Panel :=
  if p.contains id then (true, { p with active := some id }) else (false, p)

/-- The position of the active tab, from the left. Where no tab is active it is the first. -/
def activeIndex (p : Panel) : Nat :=
  match p.active with
  | none => 0
  | some id => (p.tabs.findIdx? (fun t => t.id == id)).getD 0

/-- Makes the next tab active, or the previous one, around the ends of the row, and returns it. -/
def cycle (p : Panel) (forward : Bool) : Option TabId × Panel :=
  let count := p.tabs.length
  let step := if forward then 1 else count - 1
  match p.tabs[(p.activeIndex + step) % count]? with
  | none => (none, p)
  | some entry => (some entry.id, { p with active := some entry.id })

end Panel

end Docking
