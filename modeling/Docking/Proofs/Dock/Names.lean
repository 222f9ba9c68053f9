import Docking.Proofs.Dock.Notes

/-!
# Names are given once

The counter of tabs is in the dock and the counter of nodes in its tree. Whatever is done, and
whatever fails, they only count on, and so a name that has been given out stands for what it was
given to, or for nothing. This is what makes it safe to keep names of tabs and panels that may be
gone: none of them can come to stand for something that was made afterwards.

## Main definitions

* `Book.Precedes`, `Dock.Precedes`: no name that was given out before stands for anything new.
* `Dock.Lasts`, `Dock.LastsSince`: what a name stands for, it stands for until it stands for
  nothing.

## Main results

* `Handling.precedes`: no course gives the name of a tab a second time.
* `Keeps.run_precedes`: no run gives a name a second time.
* `run_opened`, `run_closed`, `run_panels`, `run_detached`: tabs that were opened and that are
  closed, panels that are noted or aimed at, and tabs for which a window was asked.
* `run_names`: all this together.
-/

namespace Docking

/-! ## Tabs in a book -/

/-- The book `b` has become `b'`, and no name of a tab that `b` had given out stands for anything
new: it stands for the same tab as in `b`, or for nothing. -/
structure Book.Precedes (b b' : Book) : Prop where
  next : b.next ≤ b'.next
  entry : ∀ {tab : TabId} {x : TabEntry}, tab.number < b.next →
    (b'.stays tab).map Stay.entry = some x → (b.stays tab).map Stay.entry = some x

/-- Along every course a tab keeps its title and its surface, and only a new one gets a name, which
is the next one. -/
theorem Handling.precedes {b b' : Book} {op : Operation} {cmds : List Command}
    (h : Handling b op b' cmds) : b.Precedes b' := by
  cases h with
  | still => exact ⟨Nat.le_refl _, fun _ hx => hx⟩
  | enter _ panel =>
      refine ⟨Nat.le_succ _, fun {tab x} htab hx => ?_⟩
      have hold : (⟨b.next⟩ : TabId) ≠ tab := by
        rintro rfl
        exact Nat.lt_irrefl _ htab
      rwa [Book.enter, Book.stays_set_of_ne _ hold] at hx
  | @shift _ _ moved st hst st' hentry =>
      refine ⟨Nat.le_refl _, fun {tab x} _ hx => ?_⟩
      rw [Book.stays_set] at hx
      split at hx
      · next htab => rwa [← htab, hst, Option.map_some, ← hentry]
      · exact hx
  | close _ =>
      refine ⟨Nat.le_refl _, fun {tab x} _ hx => ?_⟩
      rw [Book.stays_set] at hx
      split at hx
      · cases hx
      · exact hx

namespace Dock

/-- What a tab shows: its title, and the plugin that its content comes from. -/
def content? (d : Dock) (tab : TabId) : Option (String × String) :=
  (d.item? tab).map fun i => (i.title, i.plugin)

/-- The dock `d` has become `e`, and no name that `d` had given out stands for anything new. -/
structure Precedes (d e : Dock) : Prop where
  next : d.nextTab ≤ e.nextTab
  content : ∀ {tab : TabId} {shown : String × String}, tab.number < d.nextTab →
    e.content? tab = some shown → d.content? tab = some shown
  tree : d.tree.Precedes e.tree

/-- What is looked up stands for `x`, and after any of the operations it has stood for `x` all the
time if it stands for anything: once it stands for nothing, it never stands for anything again. -/
def Lasts {α : Type} (d : Dock) (ops : List Operation) (look : Dock → Option α) (x : α) : Prop :=
  look d = some x ∧ ∀ early late, early ++ late = ops → (look (d.run ops)).isSome →
    look (d.run early) = some x

section Names

variable {d e f : Dock} {l : Layout} {b : Book} {panel : NodeId} {tab : TabId}

/-! ## Runs give no name twice -/

theorem Precedes.refl (d : Dock) : d.Precedes d := ⟨Nat.le_refl _, fun _ h => h, .refl _⟩

theorem Precedes.trans (h : d.Precedes e) (k : e.Precedes f) : d.Precedes f where
  next := Nat.le_trans h.next k.next
  content htab hshown := h.content htab (k.content (Nat.lt_of_lt_of_le htab h.next) hshown)
  tree := h.tree.trans k.tree

theorem Keeps.content?_eq (h : d.Keeps l b) (tab : TabId) :
    d.content? tab = ((b.stays tab).map Stay.entry).map fun x => (x.title, x.surface.plugin) := by
  rw [content?, h.item, Option.map_map, Option.map_map]
  congr 1
  funext st
  cases st <;> rfl

theorem Keeps.apply_precedes (h : d.Keeps l b) (op : Operation) : d.Precedes (d.apply op) := by
  obtain ⟨m, b', hkeeps, hcourse⟩ := apply_course h op
  have hbook := hcourse.handling.precedes
  refine ⟨?_, fun htab hshown => ?_, (apply_reshapes h.toSound op).1.precedes⟩
  · rw [h.next, hkeeps.next]
    exact hbook.next
  · rw [hkeeps.content?_eq, Option.map_eq_some_iff] at hshown
    obtain ⟨x, hx, rfl⟩ := hshown
    rw [h.content?_eq, hbook.entry (h.next ▸ htab) hx]
    rfl

/-- Several operations lead to a dock that keeps a book, and give no name a second time. -/
theorem Keeps.run_precedes (h : d.Keeps l b) (ops : List Operation) :
    (∃ m b', (d.run ops).Keeps m b') ∧ d.Precedes (d.run ops) := by
  induction ops generalizing d l b with
  | nil => exact ⟨⟨l, b, h⟩, .refl d⟩
  | cons op ops ih =>
      obtain ⟨m, b', hkeeps, -⟩ := apply_course h op
      obtain ⟨hlast, hprecedes⟩ := ih hkeeps
      exact ⟨hlast, (h.apply_precedes op).trans hprecedes⟩

/-- Neither up to a stage of a run nor from there to its end is a name given a second time. -/
theorem Keeps.stage_precedes (h : d.Keeps l b) {early late ops : List Operation}
    (hops : early ++ late = ops) :
    d.Precedes (d.run early) ∧ (d.run early).Precedes (d.run ops) := by
  obtain ⟨⟨m, b', hearly⟩, hbefore⟩ := h.run_precedes early
  rw [← hops, run_append]
  exact ⟨hbefore, (hearly.run_precedes late).2⟩

/-- It is enough that what a name stands for in the end it has stood for all the time. -/
theorem lasts_of {α : Type} {look : Dock → Option α} {x : α} {ops : List Operation}
    (hx : look d = some x) (hback : ∀ early late y, early ++ late = ops →
      look (d.run ops) = some y → look (d.run early) = some y) : d.Lasts ops look x := by
  refine ⟨hx, fun early late hops hend => ?_⟩
  obtain ⟨y, hy⟩ := Option.isSome_iff_exists.1 hend
  have hstart : look d = some y := hback [] ops y rfl hy
  obtain rfl : x = y := Option.some.inj (hx.symm.trans hstart)
  exact hback early late x hops hy

/-- An open tab lasts until it is closed. -/
theorem Keeps.lasts_content (h : d.Keeps l b) {shown : String × String}
    (hshown : d.content? tab = some shown) (ops : List Operation) :
    d.Lasts ops (fun e => e.content? tab) shown := by
  obtain ⟨i, hitem, -⟩ := Option.map_eq_some_iff.1 hshown
  refine lasts_of hshown fun early late y hops hy => ?_
  obtain ⟨hbefore, hafter⟩ := h.stage_precedes hops
  exact hafter.content (Nat.lt_of_lt_of_le (h.fresh hitem) hbefore.next) hy

/-- A tab that is closed is gone. -/
theorem Keeps.item?_closeTab (h : d.Keeps l b) (tab : TabId) :
    (d.closeTab tab).item? tab = none := by
  obtain ⟨more, m, -, hkeeps, -⟩ := closeTab_keeps h tab
  rw [hkeeps.item, Book.stays_set, if_pos rfl]
  rfl

/-- A node lasts until it is taken out. -/
theorem Keeps.lasts_isPanel (h : d.Keeps l b) {id : NodeId} {kind : Bool}
    (hkind : d.tree.isPanel? id = some kind) (ops : List Operation) :
    d.Lasts ops (fun e => e.tree.isPanel? id) kind := by
  obtain ⟨n, hn, -⟩ := Option.map_eq_some_iff.1 hkind
  refine lasts_of hkind fun early late y hops hy => ?_
  obtain ⟨hbefore, hafter⟩ := h.stage_precedes hops
  exact hafter.tree.node (Nat.lt_of_lt_of_le (h.holds.fresh hn) hbefore.tree.next) hy

/-! ## Runs -/

/-- What is looked up stood for `x` at some stage of the run `ops`, and has lasted since, then and
through all that is done later. -/
def LastsSince {α : Type} (d : Dock) (ops rest : List Operation) (look : Dock → Option α) (x : α) :
    Prop :=
  ∃ early late, early ++ late = ops ∧ (d.run early).Lasts (late ++ rest) look x

/-- What is gone does not come back. -/
theorem LastsSince.gone {α : Type} {look : Dock → Option α} {x : α} {ops rest : List Operation}
    (h : d.LastsSince ops rest look x) (hgone : look (d.run ops) = none) :
    look (d.run (ops ++ rest)) = none := by
  obtain ⟨early, late, rfl, -, hback⟩ := h
  refine Option.not_isSome_iff_eq_none.1 fun hend => ?_
  rw [List.append_assoc, run_append] at hend
  have hthere := hback late rest rfl hend
  rw [← run_append, hgone] at hthere
  cases hthere

variable {settings : DragSettings} {ops : List Operation}

theorem Once.lastsSince {α : Type} {look : Dock → Option α} {x : α}
    (h : (new settings).Once ops fun e => look e = some x)
    (hlasts : ∀ {d l b}, d.Keeps l b → look d = some x → ∀ ops, d.Lasts ops look x)
    (rest : List Operation) : (new settings).LastsSince ops rest look x := by
  obtain ⟨early, late, hops, hx⟩ := h
  obtain ⟨l, b, hkeeps⟩ := run_keeps settings early
  exact ⟨early, late, hops, hlasts hkeeps hx _⟩

/-- A tab that a run has opened is what it was then, or it is closed. -/
theorem run_opened (rest : List Operation) {x : TabEntry} (h : x ∈ (new settings).openings ops) :
    (new settings).LastsSince ops rest (fun e => e.content? x.id) (x.title, x.surface.plugin) := by
  have hopen : (new settings).Once ops fun e =>
      e.content? x.id = some (x.title, x.surface.plugin) := by
    refine (run_opens h).imp fun e he => ?_
    obtain ⟨i, hitem, htitle, hplugin⟩ := he
    rw [content?, hitem, ← htitle, ← hplugin]
    rfl
  exact hopen.lastsSince (fun hkeeps hshown => hkeeps.lasts_content hshown) rest

/-- A tab that a run has opened names no item once it is closed, whatever is done afterwards. -/
theorem run_closed (rest : List Operation) {x : TabEntry} (h : x ∈ (new settings).openings ops) :
    ((new settings).run (ops ++ .closeTab x.id :: rest)).item? x.id = none := by
  have hopened : x ∈ (new settings).openings (ops ++ [.closeTab x.id]) := by
    rw [openings_concat]
    exact List.mem_append_left _ h
  have hclosed : ((new settings).run (ops ++ [.closeTab x.id])).content? x.id = none := by
    obtain ⟨l, b, hkeeps⟩ := run_keeps settings ops
    rw [run_append]
    exact Option.map_eq_none_iff.2 (hkeeps.item?_closeTab x.id)
  have hgone := (run_opened rest hopened).gone hclosed
  rw [List.append_assoc] at hgone
  exact Option.map_eq_none_iff.1 hgone

/-- A panel that a dock has noted after a run, and one at which a command aims, is what it was once,
or it is gone. -/
theorem run_panels (rest : List Operation) (h : ((new settings).run ops).Notes panel ∨
      ∃ plugin zone, .instantiate plugin (some ⟨panel, zone⟩) ∈ (new settings).emitted ops) :
    (new settings).LastsSince ops rest (fun e => e.tree.isPanel? panel) true := by
  have hthere : (new settings).Once ops fun e => (e.tree.panel? panel).isSome := by
    rcases h with hnoted | ⟨plugin, zone, hasked⟩
    · exact run_notes hnoted
    · exact run_emits (fun hkeeps hqueued => hkeeps.apply_asks hqueued) hasked
  have hkind : (new settings).Once ops fun e => e.tree.isPanel? panel = some true :=
    hthere.imp fun e he => Tree.isPanel?_eq_true_iff.2 he
  exact hkind.lastsSince (fun hkeeps hkind => hkeeps.lasts_isPanel hkind) rest

/-- A tab for which a window was asked is what it was then, or it is closed. -/
theorem run_detached (rest : List Operation) {plugin : String}
    (h : .detachWindow tab plugin ∈ (new settings).emitted ops) :
    ∃ title, (new settings).LastsSince ops rest (fun e => e.content? tab) (title, plugin) := by
  obtain ⟨early, late, hops, i, hitem, hplugin⟩ :=
    run_emits (fun hkeeps hqueued => hkeeps.apply_detaches hqueued) h
  have hshown : ((new settings).run early).content? tab = some (i.title, plugin) := by
    rw [content?, hitem, ← hplugin]
    rfl
  have hopen : (new settings).Once ops fun e => e.content? tab = some (i.title, plugin) :=
    ⟨early, late, hops, hshown⟩
  exact ⟨i.title, hopen.lastsSince (fun hkeeps hshown => hkeeps.lasts_content hshown) rest⟩

/-- A name is given once. The tabs that a run opens have distinct names, and each name stands for
its tab or for nothing; it stands for nothing from the moment on at which the tab is closed; and a
tab and a node that are gone never come back. So a panel that the dock has noted and one at which a
command aims are what they were once, or are gone, and so is a tab for which a window was asked. -/
theorem run_names (settings : DragSettings) (ops rest : List Operation) :
    let start := new settings
    let d := start.run ops
    ((start.openings ops).map TabEntry.id).Nodup ∧
      (∀ x ∈ start.openings ops, start.LastsSince ops rest (fun e => e.content? x.id)
        (x.title, x.surface.plugin)) ∧
      (∀ x ∈ start.openings ops, (start.run (ops ++ .closeTab x.id :: rest)).item? x.id = none) ∧
      (∀ tab shown, d.content? tab = some shown →
        d.Lasts rest (fun e => e.content? tab) shown) ∧
      (∀ id kind, d.tree.isPanel? id = some kind →
        d.Lasts rest (fun e => e.tree.isPanel? id) kind) ∧
      (∀ panel, (d.Notes panel ∨
          ∃ plugin zone, .instantiate plugin (some ⟨panel, zone⟩) ∈ start.emitted ops) →
        start.LastsSince ops rest (fun e => e.tree.isPanel? panel) true) ∧
      ∀ tab plugin, .detachWindow tab plugin ∈ start.emitted ops →
        ∃ title, start.LastsSince ops rest (fun e => e.content? tab) (title, plugin) := by
  intro start d
  obtain ⟨l, b, hkeeps, hrecords⟩ := run_records settings ops
  exact ⟨hrecords.ids, fun x hx => run_opened rest hx, fun x hx => run_closed rest hx,
    fun tab shown hshown => hkeeps.lasts_content hshown rest,
    fun id kind hkind => hkeeps.lasts_isPanel hkind rest, fun panel h => run_panels rest h,
    fun tab plugin h => run_detached rest h⟩

/-- Two tabs side by side, of which the second one floats: its panel is gone, and still the active
one. -/
def panelLeft : List Operation := [
  .setViewport (.atOrigin 100 100),
  .openTab "A" ⟨⟨1⟩, "p"⟩ true,
  .dockNew "B" ⟨⟨2⟩, "q"⟩ (some ⟨⟨1⟩, .right⟩),
  .floatTab ⟨2⟩]

/-- Whatever is done afterwards, there is no panel under its name again; a window that is reported
late for the second tab can be reported to no other; and once that tab is closed, nothing that is
reported or asked for under its name finds an item. -/
theorem panelLeft_names :
    let start := new .standard
    let d := start.run panelLeft
    d.Notes ⟨2⟩ ∧ .detachWindow ⟨2⟩ "q" ∈ start.emitted panelLeft ∧
      ∀ rest, (start.run (panelLeft ++ rest)).tree.isPanel? ⟨2⟩ = none ∧
        (∃ title, start.LastsSince panelLeft rest (fun e => e.content? ⟨2⟩) (title, "q")) ∧
        (d.item? ⟨2⟩).isSome ∧
        (start.run (panelLeft ++ .closeTab ⟨2⟩ :: rest)).item? ⟨2⟩ = none := by
  have hnoted : ((new .standard).run panelLeft).Notes ⟨2⟩ := .active (by decide +kernel)
  have hasked : .detachWindow ⟨2⟩ "q" ∈ (new .standard).emitted panelLeft :=
    List.mem_of_getElem? (i := 6) rfl
  have hgone : ((new .standard).run panelLeft).tree.isPanel? ⟨2⟩ = none := by decide +kernel
  have hopened : ⟨⟨2⟩, "B", ⟨2⟩, "q"⟩ ∈ (new .standard).openings panelLeft :=
    List.mem_of_getElem? (i := 1) rfl
  have hopen : (((new .standard).run panelLeft).item? ⟨2⟩).isSome := by decide +kernel
  refine ⟨hnoted, hasked, fun rest => ?_⟩
  obtain ⟨-, -, hclosed, -, -, hpanels, htabs⟩ := run_names .standard panelLeft rest
  have hlasts := hpanels ⟨2⟩ (.inl hnoted)
  exact ⟨hlasts.gone hgone, htabs ⟨2⟩ "q" hasked, hopen, hclosed _ hopened⟩

end Names

end Dock

end Docking
