import Docking.Proofs.Dock.Content
import Docking.Proofs.Shell.Choices
import Docking.Proofs.Shell.Quiescence
import Docking.Proofs.Shell.Upkeep

/-!
# Tabs of enabled plugins

Surfaces are made for plugins that the registry permits: those that are enabled, and the plugin
manager. Whatever opens a tab has its surface made first, so as long as nothing is disabled, only
tabs of permitted plugins are open.

When a plugin is disabled, its tabs are closed one after another. Closing a tab opens neither a tab
nor a window, so the host has nothing to report, and the book of the dock afterwards is the one
before without the tabs of that plugin: where the others stay is not touched, whatever happens to
the panels around them.

## Main definitions

* `Registry.Permits`, `Book.Admits`: surfaces can be made for a plugin; all open tabs are allowed.
* `Shell.Abides`: only tabs of allowed plugins are open, and no others can be opened.
* `Shell.Rests`, `Shell.Orderly`: nothing is left to be done; all open tabs are permitted then.

## Main results

* `upheld_abides`: whatever opens a tab, it is of a plugin that is allowed.
* `Rests.closePlugin`: closing the tabs of a plugin leaves the others as they are.
* `calls_permitted`: what is open after any sequence of calls, and after a plugin is disabled then.
-/

namespace Docking

/-! ## Permitted plugins -/

namespace Registry

/-- Surfaces can be made for a plugin, if it has a manifest. The plugin manager needs none. -/
def Permits (r : Registry) (plugin : String) : Prop := plugin = managerName ∨ r.isEnabled plugin

theorem permits_of_create {r r' : Registry} {plugin title : String} {surface : Surface}
    (h : r.create plugin = some (title, surface, r')) :
    surface.plugin = plugin ∧ r.Permits plugin := by
  obtain ⟨_, htitle, heq⟩ := Option.map_eq_some_iff.1 h
  cases heq
  refine ⟨rfl, ?_⟩
  unfold title? at htitle
  split at htitle
  · next hmanager => exact .inl hmanager
  · split at htitle
    · next henabled => exact .inr henabled
    · cases htitle

theorem permits_congr {r r' : Registry} (h : r'.enabled = r.enabled) : r'.Permits = r.Permits := by
  funext plugin
  rw [Permits, Permits, isEnabled, isEnabled, h]

/-- Enabling a plugin forbids nothing. -/
theorem Permits.enable {r : Registry} {plugin : String} (h : r.Permits plugin) (enabled : String) :
    (r.setEnabled enabled true).Permits plugin := by
  refine h.imp_right fun henabled => ?_
  rw [isEnabled_setEnabled]
  split
  · rfl
  · exact henabled

/-- Disabling a plugin forbids no other one. -/
theorem Permits.disable {r : Registry} {plugin : String} (h : r.Permits plugin) {disabled : String}
    (hne : plugin ≠ disabled) : (r.setEnabled disabled false).Permits plugin := by
  refine h.imp_right fun henabled => ?_
  rwa [isEnabled_setEnabled, if_neg hne.symm]

end Registry

/-! ## Books with allowed tabs -/

namespace Book

/-- All open tabs are of plugins that are allowed. -/
def Admits (b : Book) (ok : String → Prop) : Prop :=
  ∀ tab st, b.stays tab = some st → ok st.entry.surface.plugin

/-- The book without the tabs of a plugin. -/
def without (b : Book) (plugin : String) : Book :=
  { b with stays := fun tab => (b.stays tab).filter fun st => st.entry.surface.plugin ≠ plugin }

section Admits

variable {b b' : Book} {ok : String → Prop} {op : Operation} {cmds : List Command}

theorem Admits.set (h : b.Admits ok) {tab : TabId} {st : Option Stay}
    (hst : ∀ s ∈ st, ok s.entry.surface.plugin) : (b.set tab st).Admits ok := by
  intro j s hj
  rw [stays_set] at hj
  split at hj
  · exact hst s hj
  · exact h j s hj

/-- A course opens the tab of the content that is given to it, and no other. -/
theorem Admits.handle (h : b.Admits ok) (hcourse : Handling b op b' cmds)
    (hnew : ∀ title surface, op.content? = some (title, surface) → ok surface.plugin) :
    b'.Admits ok := by
  cases hcourse with
  | still => exact h
  | @enter _ title surface hop panel =>
      have hmore : Admits { b with next := b.next + 1 } ok := h
      refine hmore.set fun s hs => ?_
      cases hs
      exact hnew title surface hop
  | @shift _ _ tab st hst st' hentry =>
      refine h.set fun s hs => ?_
      cases hs
      rw [hentry]
      exact h tab st hst
  | close => exact h.set fun s hs => by cases hs

theorem stays_without {plugin : String} {tab : TabId} {st : Stay} :
    (b.without plugin).stays tab = some st ↔
      b.stays tab = some st ∧ st.entry.surface.plugin ≠ plugin := by
  rw [without, Option.filter_eq_some_iff, decide_eq_true_iff]

theorem foldl_set_none (b : Book) (tabs : List TabId) :
    tabs.foldl (fun b tab => b.set tab none) b =
      { b with stays := fun j => if j ∈ tabs then none else b.stays j } := by
  induction tabs generalizing b with
  | nil => rfl
  | cons tab tabs ih =>
      rw [List.foldl_cons, ih]
      refine congrArg (mk b.next) (funext fun j => ?_)
      rw [stays_set]
      by_cases htab : tab = j
      · simp [htab]
      · simp [htab, Ne.symm htab]

end Admits

end Book

namespace Dock

theorem Keeps.mem_tabsOf {d : Dock} {l : Layout} {b : Book} (h : d.Keeps l b) {plugin : String}
    {tab : TabId} : tab ∈ d.tabsOf plugin ↔
      ∃ st, b.stays tab = some st ∧ st.entry.surface.plugin = plugin := by
  rw [tabsOf, List.mem_map]
  constructor
  · rintro ⟨i, hi, rfl⟩
    obtain ⟨hi, hof⟩ := List.mem_filter.1 hi
    obtain ⟨st, hst, rfl⟩ := h.exists_stay (h.item?_of_mem_values hi)
    exact ⟨st, hst, st.plugin_item ▸ beq_iff_eq.1 hof⟩
  · rintro ⟨st, hst, hof⟩
    have hitem := h.item_of_stay hst
    refine ⟨st.item, List.mem_filter.2 ⟨?_, ?_⟩, h.keyed hitem⟩
    · exact List.mem_map.2 ⟨(tab, st.item), Table.get?_eq_some_iff.1 hitem, rfl⟩
    · rw [Stay.plugin_item, hof, beq_self_eq_true]

/-- Without the tabs of a plugin, one after another, the book is without that plugin. -/
theorem Keeps.foldl_tabsOf {d : Dock} {l : Layout} {b : Book} (h : d.Keeps l b) (plugin : String) :
    (d.tabsOf plugin).foldl (fun b tab => b.set tab none) b = b.without plugin := by
  rw [Book.foldl_set_none]
  refine congrArg (Book.mk b.next) (funext fun tab => ?_)
  simp only [h.mem_tabsOf]
  cases b.stays tab with
  | none => simp
  | some st => by_cases hof : st.entry.surface.plugin = plugin <;> simp [Option.filter_some, hof]

end Dock

/-! ## Commands that open nothing -/

namespace Command

/-- Whether a command opens a tab or a window. -/
def isOpening : Command → Bool
  | detachWindow .. | instantiate .. => true
  | _ => false

theorem ofKind_farewell (st : Stay) : ofKind isOpening st.farewell = [] := by
  cases st with
  | docked panel x => rfl
  | floating window x => cases window <;> rfl

end Command

namespace Shell

variable {η : Type}

/-! ## Shells with allowed tabs -/

/-- The open tabs are of plugins that are allowed, and surfaces are made for no others. -/
structure Abides (ok : String → Prop) (s : Shell η) : Prop where
  keeps : ∃ l b, s.dock.Keeps l b ∧ b.Admits ok
  idle : s.dock.outbox = []
  makes : ∀ plugin, s.content.Permits plugin → ok plugin

section Abides

variable {ok : String → Prop} {s s' : Shell η}

theorem Abides.congr (h : s.Abides ok) (hdock : s'.dock = s.dock)
    (henabled : s'.content.enabled = s.content.enabled) : s'.Abides ok where
  keeps := hdock ▸ h.keeps
  idle := hdock ▸ h.idle
  makes := Registry.permits_congr henabled ▸ h.makes

/-- An operation opens a tab of the content that is given to it, if any, and no other. -/
theorem Abides.apply (h : s.Abides ok) (op : Operation) (content : Registry)
    (henabled : content.enabled = s.content.enabled)
    (hnew : ∀ title surface, op.content? = some (title, surface) → ok surface.plugin) :
    { s with dock := { s.dock.apply op with outbox := [] }, content }.Abides ok := by
  obtain ⟨l, b, hkeeps, hadmits⟩ := h.keeps
  obtain ⟨m, b', hkeeps', hcourse⟩ := Dock.apply_course hkeeps op
  exact
    { keeps := ⟨m, b', hkeeps'.congr rfl rfl rfl, hadmits.handle hcourse.handling hnew⟩
      idle := rfl
      makes := Registry.permits_congr henabled ▸ h.makes }

/-- A new tab is of a plugin that the surface was just made for. -/
theorem Abides.enter (h : s.Abides ok) {plugin title : String} {surface : Surface}
    {content : Registry} (hcreate : s.content.create plugin = some (title, surface, content))
    (op : Operation) (hop : op.content? = some (title, surface)) :
    { s with dock := { s.dock.apply op with outbox := [] }, content }.Abides ok := by
  obtain ⟨hplugin, hpermits⟩ := Registry.permits_of_create hcreate
  refine h.apply op content (Registry.enabled_create hcreate) fun title' surface' hop' => ?_
  obtain ⟨-, rfl⟩ := Prod.mk.inj (Option.some.inj (hop.symm.trans hop'))
  exact hplugin ▸ h.makes plugin hpermits

theorem Abides.instantiate (h : s.Abides ok) (plugin : String) (target : Option DropTarget) :
    (s.instantiate plugin target).2.Abides ok := by
  rw [Shell.instantiate_eq]
  split
  · exact h
  · next title surface content hcreate =>
    exact (h.enter hcreate (.dockNew title surface target) rfl).congr rfl rfl

/-- A message before its commands are carried out. -/
theorem Abides.handle (h : s.Abides ok) (m : Message) :
    { s with dock := (s.dock.handle m).2 }.Abides ok := by
  rcases receive_cases m with ⟨op, hreceive, hop, -⟩ | ⟨plugin, rfl⟩
  · have hdone := h.apply op s.content rfl (by simp [hop])
    rwa [← hreceive] at hdone
  · obtain ⟨l, b, hkeeps, hadmits⟩ := h.keeps
    exact ⟨⟨l, b, hkeeps.congr rfl rfl rfl, hadmits⟩, rfl, h.makes⟩

variable [WindowHost η]

/-- Commands that open nothing concern neither the dock nor the reports of the host. -/
theorem perform_of_not_opening (s : Shell η) {c : Command} (hc : c.isOpening = false) :
    (s.perform c).2.dock = s.dock ∧ (s.perform c).2.inbox = s.inbox := by
  have hanswer (answer : Except HostError Unit × η) :
      (s.recordAnswer answer).dock = s.dock ∧ (s.recordAnswer answer).inbox = s.inbox := by
    rw [recordAnswer_same]
    exact ⟨rfl, rfl⟩
  cases c with
  | detachWindow | instantiate => cases hc
  | closeWindow window => exact hanswer _
  | raiseWindow window => exact hanswer _
  | _ => exact ⟨rfl, rfl⟩

theorem Abides.perform (h : s.Abides ok) (c : Command) : (s.perform c).2.Abides ok := by
  have hsame := (sameChoices_perform s c).enabled
  cases hc : c.isOpening with
  | false => exact h.congr (perform_of_not_opening s hc).1 hsame
  | true =>
      cases c with
      | detachWindow tab plugin =>
          have hdock : (s.openWindow tab plugin).dock = s.dock := by rw [openWindow_same]
          exact h.congr hdock hsame
      | instantiate plugin target => exact h.instantiate plugin target
      | _ => cases hc

/-- Whatever opens a tab, it is of a plugin that is allowed. -/
theorem upheld_abides (ok : String → Prop) : Upheld fun s : Shell η => s.Abides ok where
  aside := fun _ _ h => h.congr rfl rfl
  perform := fun c h => h.perform c
  handle := fun m h => h.handle m
  openTab := fun activate hcreate h => h.enter hcreate (.openTab _ _ activate) rfl

end Abides

/-! ## Shells at rest -/

/-- The dock is as the book says, and nothing is left to be done. -/
structure Rests (s : Shell η) (b : Book) : Prop where
  keeps : ∃ l, s.dock.Keeps l b
  idle : s.dock.outbox = []
  read : s.inbox = []

/-- Nothing is left to be done, and all open tabs are of plugins that are permitted. -/
def Orderly (s : Shell η) : Prop := ∃ b, s.Rests b ∧ b.Admits s.content.Permits

section Rests

variable {s s' : Shell η} {b : Book}

theorem Rests.decided (h : s.Rests b) (plugin : String) (enabled : Bool) :
    (s.decided plugin enabled).Rests b := ⟨h.keeps, h.idle, h.read⟩

theorem orderly_new (settings : Settings) (host : η) (registry : Registry) :
    (new settings host registry).Orderly :=
  ⟨.empty, ⟨⟨_, Dock.keeps_new _⟩, rfl, rfl⟩, fun tab st hst => by cases hst⟩

theorem Orderly.abides (h : s.Orderly) : s.Abides s.content.Permits := by
  obtain ⟨b, hrests, hadmits⟩ := h
  obtain ⟨l, hkeeps⟩ := hrests.keeps
  exact ⟨⟨l, b, hkeeps, hadmits⟩, hrests.idle, fun _ hpermits => hpermits⟩

theorem Abides.orderly (h : s'.Abides s.content.Permits) (hsame : s.SameChoices s')
    (hread : s'.inbox = []) : s'.Orderly := by
  obtain ⟨l, b, hkeeps, hadmits⟩ := h.keeps
  refine ⟨b, ⟨⟨l, hkeeps⟩, h.idle, hread⟩, ?_⟩
  rwa [Registry.permits_congr hsame.enabled]

variable [WindowHost η]

theorem steady_orderly : Steady (fun (_ : Shell η) _ => True) Orderly where
  close := fun _ => trivial
  resize := fun _ => trivial
  dispatch := fun {s m} _ h =>
    ((upheld_abides _).steady.dispatch trivial h.abides).orderly
      ((steady_choices s).dispatch trivial (.refl s)) (inbox_settle _)
  openPlugin := by
    intro s plugin activate h
    refine ((upheld_abides _).steady.openPlugin plugin activate h.abides).orderly
      ((steady_choices s).openPlugin plugin activate (.refl s)) ?_
    rw [Shell.openPlugin_eq]
    split
    · obtain ⟨b, hrests, -⟩ := h
      exact hrests.read
    · exact inbox_settle _

/-! ### Closing tabs -/

/-- An agenda that opens nothing concerns neither the dock nor the reports of the host. -/
theorem carryOut_of_not_opening {agenda : List Command}
    (hagenda : Command.ofKind Command.isOpening agenda = []) :
    (carryOut agenda s).dock = s.dock ∧ (carryOut agenda s).inbox = s.inbox := by
  fun_induction carryOut agenda s with
  | case1 => exact ⟨rfl, rfl⟩
  | case2 c rest s ih =>
      rw [Command.ofKind_cons, List.append_eq_nil_iff] at hagenda
      obtain ⟨hfirst, hrest⟩ := hagenda
      have hc : c.isOpening = false := by
        cases c with
        | detachWindow | instantiate => cases hfirst
        | _ => rfl
      have hmore : Command.ofKind Command.isOpening ((s.perform c).1 ++ rest) = [] := by
        rw [Command.ofKind_append, hrest, List.append_nil]
        cases c with
        | detachWindow | instantiate => cases hc
        | batch cs => exact hfirst
        | _ => rfl
      obtain ⟨hdock, hinbox⟩ := perform_of_not_opening s hc
      obtain ⟨hdock', hinbox'⟩ := ih hmore
      exact ⟨hdock'.trans hdock, hinbox'.trans hinbox⟩

/-- A tab is closed, if it is open. -/
theorem Rests.close (h : s.Rests b) (tab : TabId) :
    (s.dispatch (.close tab)).2.Rests (b.set tab none) := by
  obtain ⟨l, hkeeps⟩ := h.keeps
  obtain ⟨more, m, hmore, hclosed, hwork⟩ := Dock.closeTab_keeps hkeeps tab
  have hnone : Command.ofKind Command.isOpening
      (Command.steps (Command.batch? (s.dock.closeTab tab).outbox)) = [] := by
    rw [Command.ofKind_steps, hmore, h.idle, List.nil_append, ← Command.ofKind_work _ rfl, hwork]
    cases b.stays tab with
    | none => rfl
    | some st => exact Command.ofKind_farewell st
  obtain ⟨hdock, hinbox⟩ :
      (s.react (.close tab)).2.dock = { s.dock.closeTab tab with outbox := [] } ∧
        (s.react (.close tab)).2.inbox = s.inbox := carryOut_of_not_opening hnone
  have hread : (s.react (.close tab)).2.inbox = [] := hinbox.trans h.read
  show (s.react (.close tab)).2.settle.2.Rests _
  rw [settle_of_read hread]
  exact ⟨⟨m, hdock ▸ hclosed.congr rfl rfl rfl⟩, hdock ▸ rfl, hread⟩

/-- The tabs of a plugin are closed, and the others stay where they are. -/
theorem Rests.closePlugin (h : s.Rests b) (plugin : String) :
    (s.closePlugin plugin).2.Rests (b.without plugin) := by
  have hfold (tabs : List TabId) {s : Shell η} {b : Book} (h : s.Rests b) :
      (tabs.foldl (fun s tab => (s.dispatch (.close tab)).2) s).Rests
        (tabs.foldl (fun b tab => b.set tab none) b) := by
    induction tabs generalizing s b with
    | nil => exact h
    | cons tab tabs ih => exact ih (h.close tab)
  obtain ⟨l, hkeeps⟩ := h.keeps
  exact hkeeps.foldl_tabsOf plugin ▸ hfold (s.dock.tabsOf plugin) h

/-! ### Enabling and disabling -/

theorem togglePlugin_of_true {plugin : String} (h : (s.togglePlugin plugin).1 = true) :
    (s.togglePlugin plugin).2 = ((s.decided plugin true).openPlugin plugin false).2 := by
  replace h : (s.settings.toggle plugin).1 = true := h
  unfold Shell.togglePlugin
  simp only [h, if_true]
  rfl

theorem togglePlugin_of_false {plugin : String} (h : (s.togglePlugin plugin).1 = false) :
    (s.togglePlugin plugin).2 = ((s.decided plugin false).closePlugin plugin).2 := by
  replace h : (s.settings.toggle plugin).1 = false := h
  unfold Shell.togglePlugin
  simp only [h, Bool.false_eq_true, if_false]
  rfl

/-- When a plugin is disabled, the tabs that are open afterwards are those of other plugins. -/
theorem Rests.disable (h : s.Rests b) {plugin : String} (hoff : (s.togglePlugin plugin).1 = false) :
    (s.togglePlugin plugin).2.Rests (b.without plugin) := by
  rw [togglePlugin_of_false hoff]
  exact (h.decided plugin false).closePlugin plugin

theorem Orderly.togglePlugin (h : s.Orderly) (plugin : String) :
    (s.togglePlugin plugin).2.Orderly := by
  obtain ⟨b, hrests, hadmits⟩ := h
  cases htoggle : (s.togglePlugin plugin).1 with
  | true =>
      have hset : (s.decided plugin true).Orderly :=
        ⟨b, hrests.decided plugin true, fun tab st hst => (hadmits tab st hst).enable plugin⟩
      rw [togglePlugin_of_true htoggle]
      exact steady_orderly.openPlugin plugin false hset
  | false =>
      refine ⟨b.without plugin, hrests.disable htoggle, fun tab st hst => ?_⟩
      obtain ⟨hst, hother⟩ := Book.stays_without.1 hst
      have hsame := (steady_choices _).closePlugin (.refl (s.decided plugin false)) plugin
      rw [togglePlugin_of_false htoggle, Registry.permits_congr hsame.enabled]
      exact (hadmits tab st hst).disable hother

/-- Whatever a shell is called to do keeps it orderly. -/
theorem lasting_orderly : Lasting (fun (_ : Shell η) _ => True) Orderly where
  toSteady := steady_orderly
  toggle := fun plugin h => h.togglePlugin plugin

/-- Whatever a shell is called to do, and whatever its window host answers: afterwards all open tabs
are of the plugin manager or of enabled plugins. If a plugin is disabled then, none of its tabs is
open any more, and the tabs of other plugins are what and where they were. -/
theorem calls_permitted (settings : Settings) (host : η) (manifests : List Manifest)
    (enabled : List String) (cs : List Call) :
    let s := (new settings host (.new manifests enabled)).calls cs
    (∀ tab i, s.dock.item? tab = some i →
      i.plugin = Registry.managerName ∨ s.content.isEnabled i.plugin) ∧
    ∀ plugin, (s.togglePlugin plugin).1 = false →
      (∀ tab i, (s.togglePlugin plugin).2.dock.item? tab = some i → i.plugin ≠ plugin) ∧
      ∀ tab i, s.dock.item? tab = some i → i.plugin ≠ plugin →
        (s.togglePlugin plugin).2.dock.item? tab = some i ∧
        (s.togglePlugin plugin).2.dock.surfaceOf? tab = s.dock.surfaceOf? tab := by
  intro s
  obtain ⟨b, hrests, hadmits⟩ : s.Orderly :=
    lasting_orderly.calls (orderly_new settings host (.new manifests enabled)) cs
  obtain ⟨l, hkeeps⟩ := hrests.keeps
  refine ⟨fun tab i hitem => ?_, fun plugin hoff => ?_⟩
  · obtain ⟨st, hst, rfl⟩ := hkeeps.exists_stay hitem
    rw [Stay.plugin_item]
    exact hadmits tab st hst
  · obtain ⟨m, hkeeps'⟩ := (hrests.disable hoff).keeps
    refine ⟨fun tab i hitem => ?_, fun tab i hitem hother => ?_⟩
    · obtain ⟨st, hst, rfl⟩ := hkeeps'.exists_stay hitem
      rw [Stay.plugin_item]
      exact (Book.stays_without.1 hst).2
    · obtain ⟨st, hst, rfl⟩ := hkeeps.exists_stay hitem
      rw [Stay.plugin_item] at hother
      have hst' : (b.without plugin).stays tab = some st := Book.stays_without.2 ⟨hst, hother⟩
      rw [hkeeps'.surfaceOf?_eq, hkeeps.surfaceOf?_eq, hst, hst']
      exact ⟨hkeeps'.item_of_stay hst', rfl⟩

end Rests

/-- A shell with two plugins, which are both enabled. -/
def notesAndDraw : Shell Headless :=
  new { Settings.standard with enabledPlugins := ["notes", "draw"] } .new
    (.new [.named "notes", .named "draw"] ["notes", "draw"])

/-- Tabs of one plugin are opened in three ways. One of them is put beside the tab of the other
plugin, another one floats, and the third one is being dragged. -/
def scattered : List Call := [
  .openPlugin "notes" true,
  .openPlugin "draw" true,
  .dispatch (.openPlugin "notes"),
  .dispatch (.drop Payload.mime (Payload.text ⟨"notes", none⟩) ⟨0, 0⟩),
  .dispatch (.move ⟨1⟩ ⟨⟨1⟩, .left⟩),
  .dispatch (.float ⟨3⟩),
  .dispatch (.pointerDown ⟨4⟩ ⟨0, 0⟩),
  .dispatch (.pointerMove ⟨90, 90⟩)]

/-- When the plugin is disabled, all three are closed, and the tab of the other plugin is left. -/
theorem scattered_permitted :
    let s := notesAndDraw.calls scattered
    s.dock.tabsOf "notes" = [⟨1⟩, ⟨3⟩, ⟨4⟩] ∧ (s.dock.item? ⟨3⟩).any Item.isFloating ∧
      s.dock.gesture.isSome ∧
      (s.togglePlugin "notes").1 = false ∧
      (s.togglePlugin "notes").2.dock.item? ⟨2⟩ = some ⟨⟨2⟩, "draw", "draw", .docked ⟨1⟩⟩ ∧
      (s.togglePlugin "notes").2.dock.surfaceOf? ⟨2⟩ = some ⟨⟨2⟩, "draw"⟩ ∧
      ∀ tab i, (s.togglePlugin "notes").2.dock.item? tab = some i → i.plugin ≠ "notes" := by
  intro s
  have hitem : s.dock.item? ⟨2⟩ = some ⟨⟨2⟩, "draw", "draw", .docked ⟨1⟩⟩ := by decide +kernel
  have hsurface : s.dock.surfaceOf? ⟨2⟩ = some ⟨⟨2⟩, "draw"⟩ := by decide +kernel
  have hoff : (s.togglePlugin "notes").1 = false := by decide +kernel
  obtain ⟨-, hdisable⟩ := calls_permitted notesAndDraw.settings Headless.new
    [.named "notes", .named "draw"] ["notes", "draw"] scattered
  obtain ⟨hclosed, hleft⟩ := hdisable "notes" hoff
  obtain ⟨hitem', hsurface'⟩ := hleft ⟨2⟩ _ hitem (by decide)
  exact ⟨by decide +kernel, by decide +kernel, by decide +kernel, hoff, hitem',
    hsurface'.trans hsurface, hclosed⟩

end Shell

end Docking
