import Docking.Proofs.Dock.Placing
import Docking.Proofs.Shell.Quiescence
import Mathlib.Data.List.Induction
import Mathlib.Data.List.Nodup

/-!
# The start of a shell

A shell that is started gets its area and opens the first tabs, one after another: the plugin
manager, if the settings say so, and every enabled plugin that a surface can be made for. All of
them are docked in the only panel there is. The first tab is shown, because it finds an empty panel,
and the others come behind it.

`Shell.started` is the shell after the start, written down without a run: what it holds is a
function of the list of the plugins that have been opened. To open one more plugin is to add it to
the list (`openPlugin_started`).

## Main definitions

* `Settings.firstPlugins`: the plugins that a start opens tabs of.
* `Shell.firstTabs`: the tabs of plugins that are opened one after another.
* `Shell.started`: the shell that has opened some plugins and done nothing else.
* `Shell.InOnePanel`: what is said of a shell whose tabs are all in the root.

## Main results

* `foldl_openPlugin_started`: a row of plugins is opened.
* `startup_eq`: the start leads to the shell that is written down.
* `startup_inOnePanel`: what this shell looks like.
-/

namespace Docking

/-! ## Tables that are filled in a row -/

/-- A table that is filled with the members of a list, of which each has a key of its own. -/
theorem Table.get?_foldl_insert {κ α β : Type} [Key κ] [DecidableEq κ] (key : β → κ) (value : β → α)
    {l : List β} (h : (l.map key).Nodup) (k : κ) :
    (l.foldl (fun t b => t.insert (key b) (value b)) Table.empty).get? k =
      (l.find? fun b => key b = k).map value := by
  induction l using List.reverseRecOn with
  | nil => rfl
  | append_singleton l b ih =>
      rw [List.map_append, List.nodup_append] at h
      obtain ⟨hl, -, hnew⟩ := h
      rw [List.foldl_append, List.foldl_cons, List.foldl_nil, Table.get?_insert, ih hl,
        List.find?_append, Option.map_or]
      by_cases hb : key b = k
      · have hnone : l.find? (fun b => key b = k) = none := by
          refine List.find?_eq_none.2 fun c hc => ?_
          have hne := hnew _ (List.mem_map_of_mem hc) _ (List.mem_singleton_self _)
          simpa [hb] using hne
        rw [if_pos hb, hnone]
        simp [hb]
      · rw [if_neg hb]
        simp [hb]

/-! ## The layout that is one panel -/

namespace Panel

/-- The panel of some tabs that shows the first of them. -/
def ofTabs (tabs : List TabEntry) : Panel := ⟨tabs, tabs.head?.map TabEntry.id⟩

/-- A tab comes behind the others, which are not disturbed unless it is the first one. -/
theorem push_ofTabs (tabs : List TabEntry) (entry : TabEntry) {activate : Bool}
    (hfirst : activate = true → tabs = []) :
    (ofTabs tabs).push entry activate = ofTabs (tabs ++ [entry]) := by
  cases tabs with
  | nil => simp [push, ofTabs]
  | cons first rest =>
      have hquiet : activate = false :=
        Bool.eq_false_iff.2 fun ha => List.cons_ne_nil first rest (hfirst ha)
      rw [hquiet]
      rfl

end Panel

/-- The layout of one panel with a given area. -/
def Tree.sole (area : Rect) (p : Panel) : Tree :=
  ⟨Table.empty.insert ⟨1⟩ ⟨none, area, .panel p⟩, ⟨1⟩, 2, area⟩

namespace Tree

theorem panel?_sole (area : Rect) (p : Panel) : (sole area p).panel? ⟨1⟩ = some p := rfl

theorem setPanel_sole (area : Rect) (p q : Panel) :
    (sole area p).setPanel ⟨1⟩ q = sole area q := rfl

theorem relayout_sole (area : Rect) (p : Panel) : (sole area p).relayout = sole area p := rfl

end Tree

/-! ## The tabs of a start -/

namespace Registry

/-- What a plugin's tabs are called. -/
def titleOf (plugin : String) : String :=
  if plugin = managerName then managerTitle else plugin

variable {r : Registry} {plugin title : String}

/-- A plugin is called by its own name, apart from the plugin manager. -/
theorem eq_titleOf (h : r.title? plugin = some title) : title = titleOf plugin := by
  unfold title? at h
  unfold titleOf
  split at h
  · next hmanager =>
    rw [if_pos hmanager]
    exact (Option.some.inj h).symm
  · next hmanager =>
    rw [if_neg hmanager]
    split at h
    · obtain ⟨m, hm, rfl⟩ := Option.map_eq_some_iff.1 h
      have hname := List.find?_some (p := fun m : Manifest => m.name == plugin) hm
      exact beq_iff_eq.1 hname
    · cases h

/-- Surfaces can be made for an enabled plugin if it is the manager or has a manifest. -/
theorem isSome_title? (h : r.isEnabled plugin) :
    (r.title? plugin).isSome =
      (plugin == managerName || r.manifests.any fun m => m.name == plugin) := by
  unfold title?
  by_cases hmanager : plugin = managerName
  · simp [hmanager]
  · have hfind : (r.manifest? plugin).isSome = r.manifests.any fun m => m.name == plugin :=
      List.isSome_find?
    rw [if_neg hmanager, if_pos h, Option.isSome_map, hfind, beq_false_of_ne hmanager,
      Bool.false_or]

end Registry

/-- The plugins that a start opens tabs of, in the order of the tabs: the plugin manager if it is to
be opened, and the enabled plugins that are the manager or have a manifest. -/
def Settings.firstPlugins (settings : Settings) (manifests : List Manifest) : List String :=
  (if settings.openPluginManager then [Registry.managerName] else []) ++
    settings.enabledPlugins.filter fun plugin =>
      plugin == Registry.managerName || manifests.any fun m => m.name == plugin

namespace TabEntry

/-- The tab of a plugin that is opened as the `n`th one, with the surface that is made for it. -/
def opened (n : Nat) (plugin : String) : TabEntry :=
  ⟨⟨n⟩, Registry.titleOf plugin, ⟨⟨n⟩, plugin⟩⟩

/-- The item of a tab that is docked. -/
def dockedIn (entry : TabEntry) (panel : NodeId) : Item :=
  ⟨entry.id, entry.title, entry.surface.plugin, .docked panel⟩

end TabEntry

namespace Shell

/-- The tabs of plugins that are opened one after another, the first one with the number one. -/
def firstTabs (plugins : List String) : List TabEntry :=
  (plugins.zipIdx 1).map fun (plugin, n) => .opened n plugin

theorem firstTabs_concat (plugins : List String) (plugin : String) :
    firstTabs (plugins ++ [plugin]) =
      firstTabs plugins ++ [.opened (plugins.length + 1) plugin] := by
  rw [firstTabs, List.zipIdx_append, List.map_append, Nat.add_comm]
  rfl

theorem length_firstTabs (plugins : List String) : (firstTabs plugins).length = plugins.length := by
  rw [firstTabs, List.length_map, List.length_zipIdx]

/-- The tabs and their surfaces are numbered from one on. -/
theorem map_firstTabs {α : Type} (name : Nat → α) {key : TabEntry → α}
    (hkey : ∀ n plugin, key (.opened n plugin) = name n) (plugins : List String) :
    (firstTabs plugins).map key = (List.range' 1 plugins.length).map name := by
  rw [firstTabs, List.map_map, ← List.zipIdx_map_snd 1 plugins, List.map_map]
  exact List.map_congr_left fun x _ => hkey x.2 x.1

theorem nodup_map_firstTabs {α : Type} (name : Nat → α) (hname : Function.Injective name)
    {key : TabEntry → α} (hkey : ∀ n plugin, key (.opened n plugin) = name n)
    (plugins : List String) : ((firstTabs plugins).map key).Nodup := by
  rw [map_firstTabs name hkey]
  exact (List.nodup_range' 1).map hname

variable {η : Type}

/-- The shell that has an area and has opened tabs of some plugins, each behind the others, and has
done nothing else. -/
def started (settings : Settings) (host : η) (manifests : List Manifest) (area : Rect)
    (plugins : List String) : Shell η :=
  let tabs := firstTabs plugins
  { dock :=
      { tree := .sole area (.ofTabs tabs)
        items := tabs.foldl (fun items t => items.insert t.id (t.dockedIn ⟨1⟩)) .empty
        activePanel := some ⟨1⟩
        gesture := none
        settings := settings.dragSettings
        nextTab := plugins.length + 1
        outbox := [] }
    host
    content :=
      { manifests
        enabled := settings.enabledPlugins
        created := plugins.length
        live := tabs.map fun t => t.surface.id
        mounted := tabs.foldl (fun mounted t => mounted.insert t.surface.id ⟨1⟩) .empty }
    settings
    inbox := []
    hostErrors := []
    redraws := plugins.length + 1 }

/-- All tabs of a shell are docked in the root, and the root is all there is. -/
structure InOnePanel (s : Shell η) (area : Rect) (tabs : List TabEntry) : Prop where
  size : s.dock.tree.size = 1
  /-- The root covers the area and shows its first tab. -/
  root : s.dock.tree.nodes.get? s.dock.tree.root =
    some ⟨none, area, .panel ⟨tabs, tabs.head?.map TabEntry.id⟩⟩
  viewport : s.dock.tree.viewport = area
  focus : s.dock.activePanel = some s.dock.tree.root
  /-- The tabs are numbered from one on. -/
  numbered : tabs.map TabEntry.id = (List.range' 1 tabs.length).map TabId.mk
  /-- There are no other tabs, and all are docked. -/
  items : ∀ tab, s.dock.item? tab =
    (tabs.find? fun t => t.id = tab).map fun t => t.dockedIn s.dock.tree.root
  live : s.content.live = tabs.map fun t => t.surface.id
  /-- The surfaces of the tabs are mounted in the root, and no others. -/
  mounted : ∀ x, s.content.mountedIn? x =
    if x ∈ s.content.live then some s.dock.tree.root else none

theorem inOnePanel_started (settings : Settings) (host : η) (manifests : List Manifest)
    (area : Rect) (plugins : List String) :
    (started settings host manifests area plugins).InOnePanel area (firstTabs plugins) where
  size := rfl
  root := rfl
  viewport := rfl
  focus := rfl
  numbered := by
    rw [length_firstTabs]
    exact map_firstTabs TabId.mk (fun _ _ => rfl) plugins
  items := Table.get?_foldl_insert TabEntry.id (fun t => t.dockedIn ⟨1⟩) <|
    nodup_map_firstTabs TabId.mk (fun _ _ => TabId.mk.inj) (fun _ _ => rfl) plugins
  live := rfl
  mounted := by
    intro x
    have hshown := Table.get?_foldl_insert (fun t => t.surface.id) (fun _ => (⟨1⟩ : NodeId))
      (nodup_map_firstTabs SurfaceId.mk (fun _ _ => SurfaceId.mk.inj) (fun _ _ => rfl) plugins) x
    refine hshown.trans ?_
    by_cases hx : x ∈ (firstTabs plugins).map fun t => t.surface.id
    · obtain ⟨t, ht, hid⟩ := List.mem_map.1 hx
      have hfound : ((firstTabs plugins).find? fun t => t.surface.id = x).isSome :=
        List.find?_isSome.2 ⟨t, ht, decide_eq_true hid⟩
      obtain ⟨found, hfound⟩ := Option.isSome_iff_exists.1 hfound
      rw [hfound]
      exact (if_pos hx).symm
    · have hnone : ((firstTabs plugins).find? fun t => t.surface.id = x) = none :=
        List.find?_eq_none.2 fun t ht hid =>
          hx (List.mem_map.2 ⟨t, ht, of_decide_eq_true hid⟩)
      rw [hnone]
      exact (if_neg hx).symm

end Shell

/-! ## Opening one plugin after another -/

namespace Dock

variable {d : Dock} {area : Rect} {p : Panel}

theorem defaultPanel_sole (htree : d.tree = .sole area p) (hactive : d.activePanel = some ⟨1⟩) :
    d.defaultPanel = (⟨1⟩, d) := by
  have hpanel : (some (⟨1⟩ : NodeId)).filter (fun p => (d.tree.panel? p).isSome) = some ⟨1⟩ := by
    rw [htree]
    rfl
  unfold defaultPanel
  rw [hactive, hpanel]

theorem addToPanel_sole (htree : d.tree = .sole area p) (hactive : d.activePanel = some ⟨1⟩)
    {entry : TabEntry} (hnew : entry.id ∉ p.tabIds) (activate : Bool) :
    d.addToPanel ⟨1⟩ entry activate = { d with tree := .sole area (p.push entry activate) } := by
  have hset : d.tree.setPanel ⟨1⟩ (p.push entry activate) = .sole area (p.push entry activate) := by
    rw [htree, Tree.setPanel_sole]
  unfold addToPanel
  rw [htree, Tree.panel?_sole]
  dsimp only
  rw [Panel.addTab_eq hnew, ← htree]
  dsimp only
  rw [hset, hactive, ite_self]

theorem placeEntry_sole (htree : d.tree = .sole area p) (hactive : d.activePanel = some ⟨1⟩)
    (entry : TabEntry) (hnew : entry.id ∉ p.tabIds) (activate : Bool) :
    d.placeEntry entry none activate = (⟨1⟩, { d with
      tree := .sole area (p.push entry activate)
      outbox := d.outbox ++ [.mount entry.surface.id ⟨1⟩] }) := by
  rw [placeEntry_none (defaultPanel_sole htree hactive), addToPanel_sole htree hactive hnew]
  rfl

/-- A tab whose name is new joins the only panel, which stays the active one. -/
theorem openTab_sole {q : Panel} {title : String} {surface : Surface} {activate : Bool}
    (htree : d.tree = .sole area p) (hactive : d.activePanel = some ⟨1⟩)
    (hnew : ⟨d.nextTab⟩ ∉ p.tabIds)
    (hpush : p.push ⟨⟨d.nextTab⟩, title, surface⟩ activate = q) :
    (d.openTab title surface activate).2 = { d with
      tree := .sole area q
      items := d.items.insert ⟨d.nextTab⟩ ⟨⟨d.nextTab⟩, title, surface.plugin, .docked ⟨1⟩⟩
      nextTab := d.nextTab + 1
      outbox := d.outbox ++ [.mount surface.id ⟨1⟩, .redraw] } := by
  subst hpush
  have hplace := placeEntry_sole (d := { d with nextTab := d.nextTab + 1 }) htree hactive
    ⟨⟨d.nextTab⟩, title, surface⟩ hnew activate
  simp only [openTab, register, hplace, finish, emit, Tree.relayout_sole, List.append_assoc]
  rfl

end Dock

namespace Shell

variable {η : Type} {settings : Settings} {host : η} {manifests : List Manifest} {area : Rect}

/-- One more plugin is one more tab behind the others. -/
theorem started_concat (plugins : List String) (plugin : String) :
    let s := started settings host manifests area plugins
    let entry := TabEntry.opened (plugins.length + 1) plugin
    started settings host manifests area (plugins ++ [plugin]) = { s with
      dock := { s.dock with
        tree := .sole area (.ofTabs (firstTabs plugins ++ [entry]))
        items := s.dock.items.insert entry.id (entry.dockedIn ⟨1⟩)
        nextTab := s.dock.nextTab + 1 }
      content := { s.content with
        created := s.content.created + 1
        live := s.content.live ++ [entry.surface.id]
        mounted := s.content.mounted.insert entry.surface.id ⟨1⟩ }
      redraws := s.redraws + 1 } := by
  simp only [started, firstTabs_concat, List.foldl_append, List.map_append, List.length_append]
  rfl

/-- Which plugins can be used does not depend on what has been opened. -/
theorem title?_started (plugins : List String) :
    (started settings host manifests area plugins).content.title? =
      (Registry.new manifests settings.enabledPlugins).title? := rfl

variable [WindowHost η]

theorem carryOut_redraw (s : Shell η) : carryOut [.redraw] s = s := by
  rw [carryOut_cons]
  exact carryOut_nil s

/-- A surface is mounted, and a repaint asked for. -/
theorem flush_shown {s : Shell η} {x : SurfaceId} {panel : NodeId}
    (hinbox : s.inbox = []) (hqueue : s.dock.outbox = [.mount x panel, .redraw]) :
    s.flush = { s with
      dock := { s.dock with outbox := [] }
      content := s.content.mount x panel
      redraws := s.redraws + 1 } := by
  have hcarry (t : Shell η) : carryOut [.mount x panel, .redraw] t =
      { t with content := t.content.mount x panel } := by
    rw [carryOut_cons]
    exact carryOut_redraw _
  have hprocess (t : Shell η) : t.process (Command.batch? [.mount x panel, .redraw]) =
      { t with content := t.content.mount x panel, redraws := t.redraws + 1 } := hcarry _
  unfold flush Dock.takeCommands
  dsimp only
  rw [hqueue, hprocess]
  exact settle_of_read hinbox

/-- A plugin that can not be used changes nothing. -/
theorem openPlugin_of_none {s : Shell η} {plugin : String} (htitle : s.content.title? plugin = none)
    (activate : Bool) : (s.openPlugin plugin activate).2 = s := by
  rw [openPlugin_eq, Registry.create, htitle]
  rfl

/-- A plugin that can be used is added to the plugins that have been opened, as long as only the
first tab is to be shown. -/
theorem openPlugin_started (plugins : List String) {plugin title : String} {activate : Bool}
    (htitle : (Registry.new manifests settings.enabledPlugins).title? plugin = some title)
    (hfirst : activate = true → plugins = []) :
    ((started settings host manifests area plugins).openPlugin plugin activate).2 =
      started settings host manifests area (plugins ++ [plugin]) := by
  let entry : TabEntry := .opened (plugins.length + 1) plugin
  have hnew : entry.id ∉ (Panel.ofTabs (firstTabs plugins)).tabIds := by
    rw [Panel.tabIds, Panel.ofTabs, map_firstTabs TabId.mk fun _ _ => rfl]
    intro hmem
    obtain ⟨n, hn, hid⟩ := List.mem_map.1 hmem
    have hnumber : n = plugins.length + 1 := congrArg TabId.number hid
    have hbound := (List.mem_range'_1.1 hn).2
    omega
  have hpush : (Panel.ofTabs (firstTabs plugins)).push entry activate =
      .ofTabs (firstTabs plugins ++ [entry]) := by
    refine Panel.push_ofTabs _ entry fun ha => ?_
    rw [hfirst ha]
    rfl
  have hsurface : (⟨⟨(started settings host manifests area plugins).content.created + 1⟩,
      plugin⟩ : Surface) = entry.surface := rfl
  obtain rfl := Registry.eq_titleOf htitle
  rw [openPlugin_eq, Registry.create, title?_started, htitle, started_concat]
  dsimp only [Option.map_some]
  rw [hsurface, Dock.openTab_sole rfl rfl hnew hpush, flush_shown rfl rfl]
  rfl

/-- A row of plugins is opened, each behind the others. Those that can not be used are passed
over. -/
theorem foldl_openPlugin_started (more plugins : List String) :
    more.foldl (fun s plugin => (s.openPlugin plugin false).2)
        (started settings host manifests area plugins) =
      started settings host manifests area (plugins ++ more.filter fun plugin =>
        ((Registry.new manifests settings.enabledPlugins).title? plugin).isSome) := by
  induction more generalizing plugins with
  | nil => rw [List.foldl_nil, List.filter_nil, List.append_nil]
  | cons plugin more ih =>
      rw [List.foldl_cons]
      cases htitle : (Registry.new manifests settings.enabledPlugins).title? plugin with
      | none =>
          rw [openPlugin_of_none htitle, ih, List.filter_cons_of_neg (by rw [htitle]; simp)]
      | some title =>
          rw [openPlugin_started plugins htitle Bool.noConfusion, ih,
            List.filter_cons_of_pos (by rw [htitle]; rfl), List.append_assoc]
          rfl

/-! ## The start -/

/-- A new shell that gets its area has opened no plugin. -/
theorem dispatch_resize_new (settings : Settings) (host : η) (manifests : List Manifest)
    (area : Rect) :
    ((new settings host (.new manifests settings.enabledPlugins)).dispatch (.resize area)).2 =
      started settings host manifests area [] := by
  have hreact :
      ((new settings host (.new manifests settings.enabledPlugins)).react (.resize area)).2 =
        started settings host manifests area [] := carryOut_redraw _
  show ((new settings host (.new manifests settings.enabledPlugins)).react
    (.resize area)).2.settle.2 = _
  rw [hreact]
  exact settle_of_read rfl

theorem startup_eq (settings : Settings) (host : η) (manifests : List Manifest) (area : Rect) :
    (new settings host (.new manifests settings.enabledPlugins)).startup area =
      started settings host manifests area (settings.firstPlugins manifests) := by
  let manager : List String := if settings.openPluginManager then [Registry.managerName] else []
  have hmanager :
      (if settings.openPluginManager then
        ((started settings host manifests area []).openPlugin Registry.managerName true).2
      else started settings host manifests area []) =
        started settings host manifests area manager := by
    unfold manager
    split
    · exact openPlugin_started [] rfl fun _ => rfl
    · rfl
  have hfilter : settings.firstPlugins manifests = manager ++ settings.enabledPlugins.filter
      fun plugin => ((Registry.new manifests settings.enabledPlugins).title? plugin).isSome := by
    refine congrArg (manager ++ ·) (List.filter_congr fun plugin hplugin => ?_)
    have henabled : (Registry.new manifests settings.enabledPlugins).isEnabled plugin :=
      List.contains_iff_mem.2 hplugin
    exact (Registry.isSome_title? henabled).symm
  have hopened := congrArg (fun s : Shell η =>
    s.settings.enabledPlugins.foldl (fun s plugin => (s.openPlugin plugin false).2) s) hmanager
  unfold startup
  rw [dispatch_resize_new, hfilter, ← foldl_openPlugin_started]
  exact hopened

/-- For all settings, all manifests and every area: the start leads to a shell whose tabs are those
of the first plugins, in this order, in the only panel there is. Over every host, no window has been
asked for; so none is open. -/
theorem startup_inOnePanel (settings : Settings) (host : η) (manifests : List Manifest)
    (area : Rect) :
    let content := Registry.new manifests settings.enabledPlugins
    let s := (new settings host content).startup area
    s.InOnePanel area (firstTabs (settings.firstPlugins manifests)) ∧
      s.host = host ∧ s.hostErrors = [] ∧
      ((new settings Headless.new content).startup area).host.windows = [] := by
  intro content s
  have hstarted : s = started settings host manifests area (settings.firstPlugins manifests) :=
    startup_eq settings host manifests area
  rw [hstarted]
  refine ⟨inOnePanel_started .., rfl, rfl, ?_⟩
  rw [startup_eq]
  rfl

-- a plugin that is enabled twice has two tabs, and one without a manifest has none
example : Settings.firstPlugins
    { Settings.standard with enabledPlugins := ["notes", "ghost", "notes"] } [.named "notes"] =
      ["plugin-manager", "notes", "notes"] := by decide

end Shell

end Docking
