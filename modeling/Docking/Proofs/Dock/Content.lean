import Mathlib.Data.List.Nodup
import Docking.Proofs.Dock.Consistency
import Docking.Proofs.Dock.History

/-!
# Content is neither lost nor doubled

The surface of a tab is handed to the dock when the tab is opened. From then on it is in the panel
entry of the tab while the tab is docked and in the placement of its item while the tab floats, and
it leaves the dock with the command that ends it, which is queued when the tab is closed.

For the content of tabs there are four kinds of courses (`Handling`). From them follows what the log
of a run says about surfaces that were ended, and from that where every surface is.

## Main definitions

* `Handling`: a course, as far as the content of tabs goes.
* `Book.Knows`, `Book.Records`: a book, the tabs that were opened and the commands that were queued.
* `Dock.LiesAt`, `Dock.Belongs`: a surface is in a place; the place is the right one for a tab.

## Main results

* `run_content`: after every run every surface is in one place, and that is the right one.
-/

namespace Docking

/-! ## Courses of content -/

namespace Command

/-- Whether a command can be about the content of tabs. A batch can be about anything. -/
def isContent : Command → Bool
  | mount .. | unmount _ | destroy _ | batch _ => true
  | _ => false

/-- The commands that can be about the content of tabs. -/
def content (cs : List Command) : List Command := cs.filter isContent

/-- The surface that a command ends. -/
def ended? : Command → Option Surface
  | destroy surface => some surface
  | _ => none

theorem content_work (cs : List Command) : content (work cs) = content cs := by
  rw [content, work, List.filter_filter]
  refine List.filter_congr fun c _ => ?_
  cases c <;> rfl

theorem filterMap_content (cs : List Command) :
    (content cs).filterMap ended? = cs.filterMap ended? := by
  rw [content, List.filterMap_filter]
  refine List.filterMap_congr fun c _ => ?_
  cases c <;> rfl

end Command

namespace Stay

/-- The command that shows the surface of a docked tab. -/
def shown (st : Stay) : List Command := st.panel?.toList.map (.mount st.entry.surface.id)

/-- The command that takes the surface of a docked tab down. -/
def takenDown (st : Stay) : List Command :=
  st.panel?.toList.map fun _ => .unmount st.entry.surface.id

theorem ended_shown (st : Stay) : st.shown.filterMap Command.ended? = [] := by
  cases st <;> rfl

theorem ended_takenDown (st : Stay) : st.takenDown.filterMap Command.ended? = [] := by
  cases st <;> rfl

end Stay

/-- What a course is for the content of tabs. -/
inductive Handling (b : Book) : Operation → Book → List Command → Prop
  /-- Nothing happens. -/
  | still {op : Operation} (hop : op.content? = none) : Handling b op b []
  /-- A tab is opened, and its surface shown. -/
  | enter {op : Operation} {title : String} {surface : Surface}
      (hop : op.content? = some (title, surface)) (panel : NodeId) :
      Handling b op (b.enter panel title surface) [.mount surface.id panel]
  /-- A tab goes somewhere else: its surface is taken down and shown again. -/
  | shift {op : Operation} (hop : op.content? = none) {tab : TabId} {st : Stay}
      (h : b.stays tab = some st) (st' : Stay) (hentry : st'.entry = st.entry) :
      Handling b op (b.set tab (some st')) (st.takenDown ++ st'.shown)
  /-- A tab is closed: its surface is taken down and ended. -/
  | close {tab : TabId} {st : Stay} (h : b.stays tab = some st) :
      Handling b (.closeTab tab) (b.set tab none) (st.takenDown ++ [.destroy st.entry.surface])

section Handling

variable {b b' : Book} {op : Operation} {cmds : List Command} {tab : TabId} {st : Stay}

theorem Stay.content_farewell (st : Stay) :
    Command.content st.farewell = st.takenDown ++ [.destroy st.entry.surface] := by
  cases st with
  | docked panel x => rfl
  | floating window x => cases window <;> rfl

/-- Every course is one of the four kinds. -/
theorem Course.handling (h : Course b op b' cmds) : Handling b op b' (Command.content cmds) := by
  cases h with
  | rest hop => exact .still (Operation.content?_of_mayRest hop)
  | raise hop _ => exact .still (Operation.content?_of_mayRest hop)
  | enter hop _ panel => exact .enter hop panel
  | @close tab st h =>
      rw [Stay.content_farewell]
      exact .close h
  | move hop h panel =>
      exact .shift (Operation.content?_of_mayRest hop) h (.docked panel _) rfl
  | float hop h =>
      exact .shift (Operation.content?_of_mayRest hop) h (.floating none _) rfl
  | attach h => exact .shift rfl h (.floating (some _) _) rfl
  | refuse _ => exact .still rfl
  | land h panel => exact .shift rfl h (.docked panel _) rfl
  | miss _ => exact .still rfl
  | drop h panel => exact .shift rfl h (.docked panel _) rfl
  | @request payload point target _ =>
      have hcontent : Command.content
          (.instantiate payload.plugin target :: payload.window.toList.map .closeWindow) = [] := by
        cases payload.window <;> rfl
      rw [hcontent]
      exact .still rfl

end Handling

/-! ## Books and what was opened -/

namespace Book

/-- The tab that an operation opens. -/
def newTab (b : Book) (op : Operation) : List TabEntry :=
  op.content?.toList.map fun c => ⟨⟨b.next⟩, c.1, c.2⟩

/-- The tabs `es` have been opened: their names are distinct and were given by the counter, and all
open tabs are among them. -/
structure Knows (b : Book) (es : List TabEntry) : Prop where
  ids : (es.map TabEntry.id).Nodup
  below : ∀ e ∈ es, e.id.number < b.next
  named : ∀ {tab st}, b.stays tab = some st → st.entry.id = tab
  known : ∀ {tab st}, b.stays tab = some st → st.entry ∈ es

/-- The surfaces `ended` were ended, each by the operation beside it: those of the tabs that have
been closed, once, and by the operation that closed the tab. -/
structure Records (b : Book) (es : List TabEntry) (ended : List (Operation × Surface)) : Prop
    extends b.Knows es where
  sound : ∀ x ∈ ended, ∃ e ∈ es, x = (.closeTab e.id, e.surface) ∧ b.stays e.id = none
  complete : ∀ e ∈ es, b.stays e.id = none → (.closeTab e.id, e.surface) ∈ ended
  once : ended.Nodup

section Records

variable {b b' : Book} {op : Operation} {cmds : List Command} {es : List TabEntry}
  {ended : List (Operation × Surface)}

theorem newTab_of_none (b : Book) (hop : op.content? = none) : b.newTab op = [] := by
  rw [newTab, hop]
  rfl

theorem Knows.eq_of_id (h : b.Knows es) {x y : TabEntry} (hx : x ∈ es) (hy : y ∈ es)
    (hid : x.id = y.id) : x = y := List.inj_on_of_nodup_map h.ids hx hy hid

/-- The name of a new tab is not in use. -/
theorem Knows.id_ne (h : b.Knows es) {e : TabEntry} (he : e ∈ es) : e.id ≠ ⟨b.next⟩ := by
  intro hid
  have := h.below e he
  rw [hid] at this
  exact Nat.lt_irrefl _ this

theorem knows_empty : empty.Knows [] where
  ids := .nil
  below := fun e he => by cases he
  named := fun h => by cases h
  known := fun h => by cases h

theorem Knows.set (h : b.Knows es) {tab : TabId} {st : Option Stay}
    (hst : ∀ s ∈ st, s.entry.id = tab ∧ s.entry ∈ es) : (b.set tab st).Knows es where
  ids := h.ids
  below := h.below
  named := by
    intro j s hj
    rw [stays_set] at hj
    split at hj
    · next htab => exact (hst s hj).1.trans htab
    · exact h.named hj
  known := by
    intro j s hj
    rw [stays_set] at hj
    split at hj
    · exact (hst s hj).2
    · exact h.known hj

theorem Knows.enter (h : b.Knows es) (panel : NodeId) (title : String) (surface : Surface) :
    (b.enter panel title surface).Knows (es ++ [⟨⟨b.next⟩, title, surface⟩]) := by
  have hmore : Knows { b with next := b.next + 1 } (es ++ [⟨⟨b.next⟩, title, surface⟩]) :=
    { ids := by
        rw [List.map_append, List.map_singleton, ← List.concat_eq_append]
        refine .concat (fun hmem => ?_) h.ids
        obtain ⟨e, he, hid⟩ := List.mem_map.1 hmem
        exact h.id_ne he hid
      below := by
        intro e he
        rcases List.mem_append.1 he with he | he
        · exact Nat.lt_succ_of_lt (h.below e he)
        · rw [List.mem_singleton.1 he]
          exact Nat.lt_succ_self _
      named := h.named
      known := fun hst => List.mem_append_left _ (h.known hst) }
  refine hmore.set fun s hs => ?_
  cases hs
  exact ⟨rfl, List.mem_append_right _ (List.mem_singleton_self _)⟩

/-- A course adds the tab that it opens to those that are known. -/
theorem Knows.handle (h : b.Knows es) (hcourse : Handling b op b' cmds) :
    b'.Knows (es ++ b.newTab op) := by
  cases hcourse with
  | still hop => rwa [newTab_of_none b hop, List.append_nil]
  | @enter _ title surface hop panel =>
      rw [newTab, hop]
      exact h.enter panel title surface
  | shift hop hst st' hentry =>
      rw [newTab_of_none b hop, List.append_nil]
      refine h.set fun s hs => ?_
      cases hs
      rw [hentry]
      exact ⟨h.named hst, h.known hst⟩
  | close hst =>
      rw [newTab_of_none b rfl, List.append_nil]
      exact h.set fun s hs => by cases hs

theorem records_empty : empty.Records [] [] where
  toKnows := knows_empty
  sound := fun x hx => by cases hx
  complete := fun e he => by cases he
  once := .nil

/-- Where no tab is closed, no surface has to be ended. -/
private theorem Records.keep (h : b.Records es ended) (hknows : b'.Knows (es ++ b.newTab op))
    (hold : ∀ e ∈ es, b'.stays e.id = none ↔ b.stays e.id = none)
    (hnew : ∀ e ∈ b.newTab op, b'.stays e.id ≠ none) :
    b'.Records (es ++ b.newTab op) ended where
  toKnows := hknows
  sound := by
    intro x hx
    obtain ⟨e, he, hclose, hnone⟩ := h.sound x hx
    exact ⟨e, List.mem_append_left _ he, hclose, (hold e he).2 hnone⟩
  complete := by
    intro e he hnone
    rcases List.mem_append.1 he with he | he
    · exact h.complete e he ((hold e he).1 hnone)
    · exact absurd hnone (hnew e he)
  once := h.once

/-- A closed tab has its surface ended. -/
private theorem Records.close (h : b.Records es ended) {tab : TabId} {st : Stay}
    (hst : b.stays tab = some st) (hknows : (b.set tab none).Knows es) :
    (b.set tab none).Records es (ended ++ [(.closeTab tab, st.entry.surface)]) := by
  obtain rfl : st.entry.id = tab := h.named hst
  have hmem := h.known hst
  refine { toKnows := hknows, sound := ?_, complete := ?_, once := ?_ }
  · intro x hx
    rcases List.mem_append.1 hx with hx | hx
    · obtain ⟨e, he, hclose, hnone⟩ := h.sound x hx
      refine ⟨e, he, hclose, ?_⟩
      rw [stays_set]
      split
      · rfl
      · exact hnone
    · exact ⟨st.entry, hmem, List.mem_singleton.1 hx, stays_set_self ..⟩
  · intro e he hnone
    by_cases hid : st.entry.id = e.id
    · obtain rfl := h.eq_of_id hmem he hid
      exact List.mem_append_right _ (List.mem_singleton_self _)
    · rw [stays_set_of_ne b hid] at hnone
      exact List.mem_append_left _ (h.complete e he hnone)
  · -- the tab was open until now, so its surface was not ended before
    rw [← List.concat_eq_append]
    refine .concat (fun hmem => ?_) h.once
    obtain ⟨e, he, hclose, hnone⟩ := h.sound _ hmem
    obtain ⟨hop, -⟩ := Prod.mk.inj hclose
    obtain hid : st.entry.id = e.id := Operation.closeTab.inj hop
    rw [← hid, hst] at hnone
    cases hnone

/-- Along every course the surfaces of closed tabs are ended, and no others. -/
theorem Records.handle (h : b.Records es ended) (hcourse : Handling b op b' cmds) :
    b'.Records (es ++ b.newTab op) (ended ++ (cmds.filterMap Command.ended?).map (op, ·)) := by
  have hknows := h.toKnows.handle hcourse
  cases hcourse with
  | still hop =>
      simp only [List.filterMap_nil, List.map_nil, List.append_nil]
      refine h.keep hknows (fun e he => Iff.rfl) ?_
      simp [newTab_of_none b hop]
  | @enter _ title surface hop panel =>
      simp only [List.filterMap_cons, Command.ended?, List.filterMap_nil, List.map_nil,
        List.append_nil]
      refine h.keep hknows (fun e he => ?_) ?_
      · rw [enter, stays_set_of_ne _ (h.id_ne he).symm]
      · simp [newTab, hop, enter]
  | @shift _ hop tab st hst st' hentry =>
      simp only [List.filterMap_append, Stay.ended_takenDown, Stay.ended_shown, List.append_nil,
        List.map_nil]
      refine h.keep hknows (fun e he => ?_) ?_
      · rw [stays_set]
        split
        · next htab => simp [← htab, hst]
        · rfl
      · simp [newTab_of_none b hop]
  | @close tab st hst =>
      have hnew : b.newTab (.closeTab tab) = [] := newTab_of_none b rfl
      simp only [hnew, List.filterMap_append,
        Stay.ended_takenDown, List.nil_append, List.filterMap_cons, Command.ended?,
        List.filterMap_nil, List.map_cons, List.map_nil, List.append_nil] at hknows ⊢
      exact h.close hst hknows

end Records

end Book

/-! ## Places -/

/-- Where a surface can be: an entry of a panel, the placement of an item, or a command of a log. -/
inductive Place where
  | entry (panel : NodeId) (position : Nat)
  | item (tab : TabId)
  | command (number : Nat)
  deriving DecidableEq

namespace Dock

/-- A surface of the name `s` is in a place. -/
def LiesAt (d : Dock) (log : List (Operation × Command)) (s : SurfaceId) : Place → Prop
  | .entry panel position => ∃ p e, d.tree.panel? panel = some p ∧ p.tabs[position]? = some e ∧
      e.surface.id = s
  | .item tab => ∃ i window surface, d.item? tab = some i ∧
      i.placement = .floating window surface ∧ surface.id = s
  | .command number => ∃ op surface, log[number]? = some (op, .destroy surface) ∧ surface.id = s

/-- A place is the right one for the surface of a tab. The entry of a docked tab is the one that was
made when the tab was opened, and the item agrees with it. The item of a floating tab has the tab's
title, plugin and surface. The command that ends the surface of a closed tab was queued when that
tab was closed, and there is no item for it any more. -/
def Belongs (d : Dock) (log : List (Operation × Command)) (e : TabEntry) : Place → Prop
  | .entry panel position =>
      (∃ p, d.tree.panel? panel = some p ∧ p.tabs[position]? = some e) ∧
        d.item? e.id = some ⟨e.id, e.title, e.surface.plugin, .docked panel⟩
  | .item tab => tab = e.id ∧ ∃ window,
      d.item? tab = some ⟨e.id, e.title, e.surface.plugin, .floating window e.surface⟩
  | .command number =>
      log[number]? = some (.closeTab e.id, .destroy e.surface) ∧ d.item? e.id = none

/-- What an entry of a log ends. -/
def ending? (x : Operation × Command) : Option (Operation × Surface) := x.2.ended?.map (x.1, ·)

section Content

variable {d : Dock} {l : Layout} {b : Book} {es : List TabEntry} {log : List (Operation × Command)}
  {e : TabEntry} {place : Place}

theorem ending?_eq_some_iff {x : Operation × Command} {op : Operation} {surface : Surface} :
    ending? x = some (op, surface) ↔ x = (op, .destroy surface) := by
  obtain ⟨op', c⟩ := x
  cases c <;> simp [ending?, Command.ended?]

/-- What is in a place belongs to a tab that was opened. -/
theorem Keeps.belongs (h : d.Keeps l b) (k : b.Records es (log.filterMap ending?)) {s : SurfaceId}
    (hlies : d.LiesAt log s place) : ∃ e ∈ es, e.surface.id = s ∧ d.Belongs log e place := by
  cases place with
  | entry panel position =>
      obtain ⟨p, e, hp, he, rfl⟩ := hlies
      have hst := h.stays_of_mem (h.holds.panel?_eq_some_iff.1 hp) (List.mem_of_getElem? he)
      exact ⟨e, k.known hst, rfl, ⟨p, hp, he⟩, h.item_of_stay hst⟩
  | item tab =>
      obtain ⟨i, window, surface, hitem, hplacement, rfl⟩ := hlies
      obtain ⟨hst, -⟩ := h.stays_of_floating hitem hplacement
      exact ⟨_, k.known hst, rfl, rfl, window, h.item_of_stay hst⟩
  | command number =>
      obtain ⟨op, surface, hlog, rfl⟩ := hlies
      have hmem : (op, surface) ∈ log.filterMap ending? :=
        List.mem_filterMap.2 ⟨_, List.mem_of_getElem? hlog, rfl⟩
      obtain ⟨e, he, hclose, hnone⟩ := k.sound _ hmem
      obtain ⟨rfl, rfl⟩ := Prod.mk.inj hclose
      refine ⟨e, he, rfl, hlog, ?_⟩
      rw [h.item, hnone]
      rfl

/-- There is a right place for every tab that was opened. -/
theorem Keeps.exists_belongs (h : d.Keeps l b) (k : b.Records es (log.filterMap ending?))
    (he : e ∈ es) : ∃ place, d.Belongs log e place := by
  cases hst : b.stays e.id with
  | none =>
      obtain ⟨x, hx, hend⟩ := List.mem_filterMap.1 (k.complete e he hst)
      obtain rfl := ending?_eq_some_iff.1 hend
      obtain ⟨number, hnumber⟩ := List.getElem?_of_mem hx
      refine ⟨.command number, hnumber, ?_⟩
      rw [h.item, hst]
      rfl
  | some st =>
      obtain rfl : st.entry = e := k.eq_of_id (k.known hst) he (k.named hst)
      cases st with
      | docked panel x =>
          obtain ⟨p, hp, hx⟩ := h.entry.2 hst
          obtain ⟨position, hposition⟩ := List.getElem?_of_mem hx
          exact ⟨.entry panel position, ⟨p, h.holds.panel?_of_mem hp, hposition⟩,
            h.item_of_stay hst⟩
      | floating window x => exact ⟨.item x.id, rfl, window, h.item_of_stay hst⟩

/-- Two entries of the log do not end the same. -/
theorem eq_of_getElem?_eq_some (hnodup : (log.filterMap ending?).Nodup) {m n : Nat}
    {x : Operation × Command} {y : Operation × Surface} (hend : ending? x = some y)
    (hm : log[m]? = some x) (hn : log[n]? = some x) : m = n := by
  have hpairs := List.pairwise_iff_getElem.1 (List.pairwise_filterMap.1 hnodup)
  obtain ⟨hm', hmx⟩ := List.getElem?_eq_some_iff.1 hm
  obtain ⟨hn', hnx⟩ := List.getElem?_eq_some_iff.1 hn
  rcases Nat.lt_trichotomy m n with hlt | heq | hlt
  · exact absurd rfl (hpairs m n hm' hn' hlt y (hmx ▸ hend) y (hnx ▸ hend))
  · exact heq
  · exact absurd rfl (hpairs n m hn' hm' hlt y (hnx ▸ hend) y (hmx ▸ hend))

/-- There is only one right place for a tab. -/
theorem Belongs.unique (h : d.Sound l) (hnodup : (log.filterMap ending?).Nodup) {other : Place}
    (hplace : d.Belongs log e place) (hother : d.Belongs log e other) : other = place := by
  cases place with
  | entry panel i =>
      obtain ⟨⟨p, hp, hi⟩, hitem⟩ := hplace
      cases other with
      | entry panel' j =>
          obtain ⟨⟨p', hp', hj⟩, -⟩ := hother
          have hi' : p.tabIds[i]? = some e.id := by rw [Panel.tabIds, List.getElem?_map, hi]; rfl
          have hj' : p'.tabIds[j]? = some e.id := by rw [Panel.tabIds, List.getElem?_map, hj]; rfl
          obtain ⟨rfl, rfl⟩ := h.position hp' hp hj' hi'
          rfl
      | item tab =>
          obtain ⟨rfl, window, hitem'⟩ := hother
          simp [hitem] at hitem'
      | command n => simp [Belongs, hitem] at hother
  | item tab =>
      obtain ⟨rfl, window, hitem⟩ := hplace
      cases other with
      | entry panel j => simp [Belongs, hitem] at hother
      | item tab => exact congrArg _ hother.1
      | command n => simp [Belongs, hitem] at hother
  | command m =>
      obtain ⟨hm, hitem⟩ := hplace
      cases other with
      | entry panel j => simp [Belongs, hitem] at hother
      | item tab =>
          obtain ⟨rfl, window, hitem'⟩ := hother
          simp [hitem] at hitem'
      | command n => rw [eq_of_getElem?_eq_some hnodup rfl hm hother.1]

/-- After every run the book knows the opened tabs, and the log is in line with it. -/
theorem run_records (settings : DragSettings) (ops : List Operation) :
    ∃ l b, ((new settings).run ops).Keeps l b ∧ b.Records ((new settings).openings ops)
      (((new settings).log ops).filterMap ending?) := by
  refine run_book settings ops (motive := fun ops b => b.Records ((new settings).openings ops)
    (((new settings).log ops).filterMap ending?)) Book.records_empty ?_
  intro ops op l b b' h k hcourse
  have hended : ((((new settings).run ops).queued op).map (op, ·)).filterMap ending? =
      ((Command.content (Command.work (((new settings).run ops).queued op))).filterMap
        Command.ended?).map (op, ·) := by
    rw [Command.content_work, Command.filterMap_content, List.filterMap_map, List.map_filterMap]
    rfl
  rw [openings_concat, h.opened_eq, log_concat, List.filterMap_append, hended]
  exact k.handle hcourse.handling

/-- After every run in which surfaces of distinct names are opened, every surface is in one place,
and that is the right one: the entry of the tab that it was opened for, the item of that tab, or the
command that was queued when the tab was closed. In no place is there anything else. -/
theorem run_content (settings : DragSettings) (ops : List Operation)
    (hdistinct : (((new settings).openings ops).map fun e => e.surface.id).Nodup) :
    let d := (new settings).run ops
    let log := (new settings).log ops
    (∀ e ∈ (new settings).openings ops, ∃ place, d.Belongs log e place ∧
      ∀ other, d.LiesAt log e.surface.id other → other = place) ∧
    ∀ s place, d.LiesAt log s place →
      ∃ e ∈ (new settings).openings ops, e.surface.id = s ∧ d.Belongs log e place := by
  obtain ⟨l, b, h, k⟩ := run_records settings ops
  refine ⟨?_, fun s place => h.belongs k⟩
  intro e he
  obtain ⟨place, hplace⟩ := h.exists_belongs k he
  refine ⟨place, hplace, fun other hother => ?_⟩
  obtain ⟨e', he', hsurface, hbelongs⟩ := h.belongs k hother
  obtain rfl : e' = e := List.inj_on_of_nodup_map hdistinct he' he hsurface
  exact hplace.unique h.toSound k.once hbelongs

/-- Three tabs are opened. One floats and is docked again, one floats in the end, and one is closed.
-/
def threeFates : List Operation := [
  .openTab "A" ⟨⟨1⟩, "p"⟩ true,
  .openTab "B" ⟨⟨2⟩, "q"⟩ true,
  .dockNew "C" ⟨⟨3⟩, "p"⟩ (some ⟨⟨1⟩, .right⟩),
  .floatTab ⟨1⟩,
  .attachWindow ⟨1⟩ ⟨"w"⟩,
  .floatTab ⟨2⟩,
  .dockFloating ⟨1⟩ (some ⟨⟨2⟩, .top⟩),
  .takeCommands,
  .closeTab ⟨3⟩]

theorem threeFates_content :
    (((new .standard).openings threeFates).map fun e => e.surface.id).Nodup ∧
      let d := (new .standard).run threeFates
      let log := (new .standard).log threeFates
      (∀ place, d.LiesAt log ⟨1⟩ place ↔ place = .entry ⟨4⟩ 0) ∧
      (∀ place, d.LiesAt log ⟨2⟩ place ↔ place = .item ⟨2⟩) ∧
      ∀ place, d.LiesAt log ⟨3⟩ place ↔ place = .command 15 := by
  have hdistinct : (((new .standard).openings threeFates).map fun e => e.surface.id).Nodup := by
    decide
  have hone {e : TabEntry} (he : e ∈ (new .standard).openings threeFates) {place : Place}
      (hplace : ((new .standard).run threeFates).LiesAt ((new .standard).log threeFates)
        e.surface.id place) (other : Place) :
      ((new .standard).run threeFates).LiesAt ((new .standard).log threeFates)
        e.surface.id other ↔ other = place := by
    obtain ⟨only, -, honly⟩ := (run_content .standard threeFates hdistinct).1 e he
    obtain rfl : place = only := honly place hplace
    exact ⟨honly other, fun h => h ▸ hplace⟩
  refine ⟨hdistinct, hone (e := ⟨⟨1⟩, "A", ⟨1⟩, "p"⟩) ?_ ?_, hone (e := ⟨⟨2⟩, "B", ⟨2⟩, "q"⟩) ?_ ?_,
    hone (e := ⟨⟨3⟩, "C", ⟨3⟩, "p"⟩) ?_ ?_⟩
  · exact .head _
  · exact ⟨_, _, rfl, rfl, rfl⟩
  · exact .tail _ (.head _)
  · exact ⟨_, _, _, rfl, rfl, rfl⟩
  · exact .tail _ (.tail _ (.head _))
  · exact ⟨_, _, rfl, rfl⟩

end Content

end Dock

end Docking
