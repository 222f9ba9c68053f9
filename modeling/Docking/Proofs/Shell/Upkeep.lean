import Docking.Proofs.Shell.Calls
import Docking.Proofs.Shell.Mirroring

/-!
# The content of a shell

The dock of a shell changes first, and the registry follows when the commands of the dock are
carried out. While an agenda is being carried out the content lags behind the dock; when the agenda
is at its end, the content is abreast of the dock. So between calls, whatever they were, the
surfaces that are alive are those of the open tabs.

## Main definitions

* `Shell.Lags`, `Shell.Abreast`: the content with an agenda to be carried out, and with none.
* `Dock.surfaceOf?`: the surface of an open tab.
* `Shell.Mirrored`: what holds of the content between calls.

## Main results

* `Lags.perform`, `Lags.carryOut`: one command of an agenda, and all of it.
* `lasting_abreast`: the content is abreast of the dock after every call, if it was so before.
* `calls_mirrored`: the content mirrors the dock after any sequence of calls.
-/

namespace Docking

namespace Shell

variable {η : Type}

/-! ## Content that lags behind -/

/-- As soon as the agenda is carried out the registry mirrors the dock. -/
structure Lags (s : Shell η) (b : Book) (agenda : List Command) : Prop where
  keeps : ∃ l, s.dock.Keeps l b
  idle : s.dock.outbox = []
  owed : Owed b s.content (Command.upkeep agenda)

/-- The registry mirrors the dock now. -/
def Abreast (s : Shell η) : Prop := ∃ b, s.Lags b []

section Lags

variable {s s' : Shell η} {b : Book} {agenda rest : List Command} {c : Command}

/-- Only the dock and the content matter. -/
theorem Lags.congr (h : s.Lags b agenda) (hdock : s'.dock = s.dock)
    (hcontent : s'.content = s.content) : s'.Lags b agenda where
  keeps := hdock ▸ h.keeps
  idle := hdock ▸ h.idle
  owed := hcontent ▸ h.owed

theorem Lags.mirrors (h : s.Lags b []) : s.content.Mirrors b := by
  obtain ⟨-, -, howed⟩ := h
  cases howed with
  | nothing h => exact h

/-- After an operation the content lags behind by the commands that the operation has queued. -/
theorem Lags.apply (h : s.Lags b []) (op : Operation) (content : Registry)
    (howed : ∀ {b' cmds}, Course b op b' cmds → Owed b' content (Command.upkeep cmds)) :
    ∃ b', { s with dock := { s.dock.apply op with outbox := [] }, content }.Lags b'
      (s.dock.apply op).outbox := by
  obtain ⟨l, hkeeps⟩ := h.keeps
  obtain ⟨m, b', hkeeps', hcourse⟩ := Dock.apply_course hkeeps op
  refine ⟨b', ⟨m, hkeeps'.congr rfl rfl rfl⟩, rfl, ?_⟩
  have hupkeep := howed hcourse
  rwa [Command.upkeep, Command.ofKind_work _ rfl, ← outbox_eq_queued h.idle] at hupkeep

/-- Making a tab adds what is to be done for it. -/
theorem Lags.make (h : s.Lags b []) (plugin : String) (target : Option DropTarget) :
    ∃ b', (s.instantiate plugin target).2.Lags b' (s.instantiate plugin target).1 := by
  rw [Shell.instantiate_eq]
  split
  · exact ⟨b, h⟩
  · next title surface content hcreate =>
    obtain ⟨b', hkeeps, hidle, howed⟩ := h.apply (.dockNew title surface target) content
      fun hcourse => h.mirrors.owed_enter hcreate rfl hcourse
    refine ⟨b', hkeeps, hidle, ?_⟩
    rwa [Command.upkeep, Dock.takeCommands, Command.ofKind_steps]

variable [WindowHost η]

/-- Carrying out the first command of an agenda. -/
theorem Lags.perform (h : s.Lags b (c :: rest)) :
    ∃ b', (s.perform c).2.Lags b' ((s.perform c).1 ++ rest) := by
  have howed := h.owed
  rw [Command.upkeep, Command.ofKind_cons] at howed
  cases c with
  | nothing | redraw => exact ⟨b, h.keeps, h.idle, howed⟩
  | mount surface panel =>
      cases howed with
      | mount howed => exact ⟨b, h.keeps, h.idle, howed⟩
  | unmount surface =>
      cases howed with
      | unmount howed => exact ⟨b, h.keeps, h.idle, howed⟩
  | destroy surface =>
      cases howed with
      | destroy howed => exact ⟨b, h.keeps, h.idle, howed⟩
  | detachWindow tab plugin =>
      refine ⟨b, ?_⟩
      show (s.openWindow tab plugin).Lags b rest
      rw [openWindow_same]
      exact ⟨h.keeps, h.idle, howed⟩
  | closeWindow window | raiseWindow window =>
      refine ⟨b, ?_⟩
      show (s.recordAnswer _).Lags b rest
      rw [recordAnswer_same]
      exact ⟨h.keeps, h.idle, howed⟩
  | instantiate plugin target =>
      -- nothing is owed behind a tab that is to be made
      obtain ⟨hmore, hmirrors⟩ :
          Command.ofKind Command.isUpkeep rest = [] ∧ s.content.Mirrors b := by
        generalize Command.ofKind Command.isUpkeep rest = more at howed
        cases howed with
        | instantiate hmirrors => exact ⟨rfl, hmirrors⟩
      have hnow : s.Lags b [] := ⟨h.keeps, h.idle, .nothing hmirrors⟩
      obtain ⟨b', hkeeps, hidle, howed'⟩ := hnow.make plugin target
      refine ⟨b', hkeeps, hidle, ?_⟩
      rw [Shell.perform, Command.upkeep, Command.ofKind_append, hmore, List.append_nil]
      exact howed'
  | batch cs =>
      refine ⟨b, h.keeps, h.idle, ?_⟩
      rw [Shell.perform, Command.upkeep, Command.ofKind_append]
      exact howed

/-- When the agenda is carried out, the content is abreast of the dock. -/
theorem Lags.carryOut (h : s.Lags b agenda) : (Shell.carryOut agenda s).Abreast := by
  fun_induction Shell.carryOut agenda s generalizing b with
  | case1 => exact ⟨b, h⟩
  | case2 c rest s ih =>
      obtain ⟨b', h'⟩ := h.perform
      exact ih h'

theorem Lags.process (h : s.Lags b agenda) : (s.process (Command.batch? agenda)).Abreast := by
  have hsteps : (s.countRedraw (Command.batch? agenda)).Lags b
      (Command.steps (Command.batch? agenda)) :=
    { keeps := h.keeps
      idle := h.idle
      owed := by
        rw [Command.upkeep, Command.ofKind_steps]
        exact h.owed }
  exact hsteps.carryOut

end Lags

/-! ## Content that is abreast -/

section Abreast

variable {s s' : Shell η}

theorem abreast_new (settings : Settings) (host : η) (manifests : List Manifest)
    (enabled : List String) : (new settings host (.new manifests enabled)).Abreast :=
  ⟨.empty, ⟨_, Dock.keeps_new _⟩, rfl, .nothing (Registry.mirrors_new manifests enabled)⟩

/-- Only the dock and the content matter. -/
theorem Abreast.congr (h : s.Abreast) (hdock : s'.dock = s.dock)
    (hcontent : s'.content = s.content) : s'.Abreast := by
  obtain ⟨b, h⟩ := h
  exact ⟨b, h.congr hdock hcontent⟩

/-- What is enabled does not matter. -/
theorem Abreast.enable (h : s.Abreast) (settings : Settings) (plugin : String) (enabled : Bool) :
    { s with settings, content := s.content.setEnabled plugin enabled }.Abreast := by
  obtain ⟨b, h⟩ := h
  exact ⟨b, h.keeps, h.idle, .nothing (h.mirrors.setEnabled plugin enabled)⟩

variable [WindowHost η]

/-- A message with the commands that it leads to. -/
theorem Abreast.react (h : s.Abreast) (m : Message) : (s.react m).2.Abreast := by
  obtain ⟨b, h⟩ := h
  rcases receive_cases m with ⟨op, hreceive, hop, -⟩ | ⟨plugin, rfl⟩
  · obtain ⟨b', h'⟩ := h.apply op s.content fun hcourse => h.mirrors.owed hop hcourse
    rw [← hreceive] at h'
    exact h'.process
  · have hqueue : (s.dock.receive (.openPlugin plugin)).outbox = [.instantiate plugin none] := by
      simp [Dock.receive, Dock.emit, h.idle]
    obtain ⟨l, hkeeps⟩ := h.keeps
    have hasked : { s with
        dock := { s.dock.receive (.openPlugin plugin) with outbox := [] } }.Lags b
          (s.dock.receive (.openPlugin plugin)).outbox := by
      refine ⟨⟨l, hkeeps.congr rfl rfl rfl⟩, rfl, ?_⟩
      rw [hqueue]
      exact .instantiate h.mirrors
    exact hasked.process

/-- The reports of the host. -/
theorem Abreast.settle (h : s.Abreast) : s.settle.2.Abreast := by
  fun_induction Shell.settle s with
  | case1 => exact h
  | case2 s tab window rest hinbox =>
      rename_i ih
      have hread : { s with inbox := rest }.Abreast := h.congr rfl rfl
      exact ih (hread.react _)

theorem Abreast.openPlugin (h : s.Abreast) (plugin : String) (activate : Bool) :
    (s.openPlugin plugin activate).2.Abreast := by
  rw [Shell.openPlugin_eq]
  split
  · exact h
  · next title surface content hcreate =>
    obtain ⟨b, h⟩ := h
    obtain ⟨b', h'⟩ := h.apply (.openTab title surface activate) content
      fun hcourse => h.mirrors.owed_enter hcreate rfl hcourse
    exact h'.process.settle

theorem steady_abreast : Steady (fun (_ : Shell η) _ => True) Abreast where
  close := fun _ => trivial
  resize := fun _ => trivial
  dispatch := fun {_ m} _ h => (h.react m).settle
  openPlugin := fun plugin activate h => h.openPlugin plugin activate

/-- Every call keeps the content abreast of the dock. -/
theorem lasting_abreast : Lasting (fun (_ : Shell η) _ => True) Abreast :=
  steady_abreast.lasting fun settings plugin enabled h => h.enable settings plugin enabled

end Abreast

end Shell

/-! ## Docks and their surfaces -/

namespace Dock

/-- The surface of an open tab. A floating tab has it in its item, and a docked one in its panel. -/
def surfaceOf? (d : Dock) (tab : TabId) : Option Surface :=
  (d.item? tab).bind fun i =>
    match i.placement with
    | .docked panel => ((d.tree.panel? panel).bind fun p => p.tab? tab).map TabEntry.surface
    | .floating _ surface => some surface

section Surfaces

variable {d : Dock} {l : Layout} {b : Book} {r : Registry}

theorem Keeps.surfaceOf?_eq (h : d.Keeps l b) (tab : TabId) :
    d.surfaceOf? tab = (b.stays tab).map fun st => st.entry.surface := by
  rw [surfaceOf?, h.item]
  cases hst : b.stays tab with
  | none => rfl
  | some st =>
      cases st with
      | floating window entry => rfl
      | docked panel entry =>
          obtain rfl : entry.id = tab := h.named hst
          obtain ⟨p, hp, hentry⟩ := h.entry.2 hst
          -- another entry of that name would stay in the panel too
          have htab : p.tab? entry.id = some entry := by
            cases hfind : p.tab? entry.id with
            | none =>
                have hnone := List.find?_eq_none.1 hfind entry hentry
                simp at hnone
            | some x =>
                have hx := List.mem_of_find?_eq_some hfind
                have hid : x.id = entry.id := by simpa using List.find?_some hfind
                have hstay := h.stays_of_mem hp hx
                rw [hid, hst] at hstay
                cases hstay
                rfl
          simp [Stay.item, Stay.entry, h.holds.panel?_of_mem hp, htab]

/-- There are as many open tabs as surfaces that are alive. -/
theorem Keeps.length_live (h : d.Keeps l b) (k : r.Mirrors b) : r.live.length = d.items.size := by
  have hkey : ∀ {tab}, tab ∈ d.items.keys ↔ (b.surface? tab).isSome := by
    intro tab
    rw [Table.mem_keys_iff, Book.surface?, Option.isSome_map]
    show (d.item? tab).isSome ↔ _
    rw [h.item, Option.isSome_map]
  have hnodup : (d.items.keys.map b.surface?).Nodup := by
    refine d.items.nodup_keys.map_on fun i hi j hj heq => ?_
    obtain ⟨id, hid⟩ := Option.isSome_iff_exists.1 (hkey.1 hi)
    exact k.single hid (heq ▸ hid)
  have hmem : ∀ x, x ∈ d.items.keys.map b.surface? ↔ x ∈ r.live.map some := by
    intro x
    rw [List.mem_map, List.mem_map]
    constructor
    · rintro ⟨tab, htab, rfl⟩
      obtain ⟨id, hid⟩ := Option.isSome_iff_exists.1 (hkey.1 htab)
      exact ⟨id, k.alive.2 ⟨tab, hid⟩, hid.symm⟩
    · rintro ⟨id, hlive, rfl⟩
      obtain ⟨tab, hid⟩ := k.alive.1 hlive
      exact ⟨tab, hkey.2 (Option.isSome_iff_exists.2 ⟨id, hid⟩), hid⟩
  have hperm : (d.items.keys.map b.surface?).Perm (r.live.map some) :=
    (List.perm_ext_iff_of_nodup hnodup (k.nodup.map fun _ _ => Option.some.inj)).2 hmem
  have hlength := hperm.length_eq
  rw [List.length_map, List.length_map, Table.keys, List.length_map] at hlength
  exact hlength.symm

end Surfaces

end Dock

namespace Shell

variable {η : Type}

/-- The content mirrors the dock. -/
structure Mirrored (s : Shell η) : Prop where
  /-- Every open tab has a surface. -/
  owned : ∀ tab, (s.dock.surfaceOf? tab).isSome = (s.dock.item? tab).isSome
  /-- No two tabs have the same surface. -/
  single : ∀ i j x y, s.dock.surfaceOf? i = some x → s.dock.surfaceOf? j = some y →
    x.id = y.id → i = j
  /-- The surfaces that are alive are those of the open tabs. -/
  alive : ∀ id, id ∈ s.content.live ↔
    ∃ tab surface, s.dock.surfaceOf? tab = some surface ∧ surface.id = id
  /-- No surface is listed twice. -/
  nodup : s.content.live.Nodup
  /-- There are as many of them as open tabs. -/
  count : s.content.live.length = s.dock.items.size
  /-- A surface is shown in a panel if its tab is docked there, and in no other case. -/
  mounted : ∀ id panel, s.content.mountedIn? id = some panel ↔
    ∃ tab surface, s.dock.surfaceOf? tab = some surface ∧ surface.id = id ∧
      s.dock.panelOf? tab = some panel

theorem Abreast.mirrored {s : Shell η} (h : s.Abreast) : s.Mirrored := by
  obtain ⟨b, h⟩ := h
  have hmirrors := h.mirrors
  obtain ⟨l, hkeeps⟩ := h.keeps
  have hsurface : ∀ {tab id}, b.surface? tab = some id ↔
      ∃ surface, s.dock.surfaceOf? tab = some surface ∧ surface.id = id := by
    intro tab id
    rw [hkeeps.surfaceOf?_eq, Book.surface?]
    cases b.stays tab <;> simp
  refine
    { owned := ?_
      single := ?_
      alive := ?_
      nodup := hmirrors.nodup
      count := hkeeps.length_live hmirrors
      mounted := ?_ }
  · intro tab
    rw [hkeeps.surfaceOf?_eq, hkeeps.item, Option.isSome_map, Option.isSome_map]
  · intro i j x y hi hj hid
    exact hmirrors.single (hsurface.2 ⟨x, hi, hid⟩) (hsurface.2 ⟨y, hj, rfl⟩)
  · intro id
    rw [hmirrors.alive]
    simp only [hsurface]
  · intro id panel
    constructor
    · intro hshown
      have hlive : id ∈ s.content.live := by
        by_contra hdead
        rw [hmirrors.hidden hdead] at hshown
        cases hshown
      obtain ⟨tab, htab⟩ := hmirrors.alive.1 hlive
      obtain ⟨surface, hsurf, hid⟩ := hsurface.1 htab
      refine ⟨tab, surface, hsurf, hid, ?_⟩
      obtain ⟨st, hst, rfl⟩ := Option.map_eq_some_iff.1 htab
      rw [hkeeps.panelOf?_eq, hst, Option.bind_some, ← hmirrors.shown hst, hshown]
    · rintro ⟨tab, surface, hsurf, rfl, hpanel⟩
      rw [hkeeps.surfaceOf?_eq] at hsurf
      obtain ⟨st, hst, rfl⟩ := Option.map_eq_some_iff.1 hsurf
      rw [hkeeps.panelOf?_eq, hst, Option.bind_some] at hpanel
      rw [hmirrors.shown hst, hpanel]

variable [WindowHost η]

/-- Whatever a shell is called to do, and whatever its window host answers: afterwards the surfaces
that are alive are those of the open tabs, one for each, and a surface is shown in a panel exactly
if its tab is docked there. -/
theorem calls_mirrored (settings : Settings) (host : η) (manifests : List Manifest)
    (enabled : List String) (cs : List Call) :
    ((new settings host (.new manifests enabled)).calls cs).Mirrored :=
  (lasting_abreast.calls (abreast_new settings host manifests enabled) cs).mirrored

/-- A plugin is disabled while one of its tabs floats and another one is docked: what is alive then
is the surface of the plugin manager, which is shown in the one panel. -/
example :
    let s := (new .standard Headless.new (.new [.named "notes"] [])).calls
      [.togglePlugin "notes", .openPlugin "notes" true, .openPlugin Registry.managerName true,
        .dispatch (.float ⟨1⟩), .togglePlugin "notes"]
    s.content.live = [⟨3⟩] ∧ s.content.mounted.entries = [(⟨3⟩, ⟨1⟩)] := by
  decide +kernel

end Shell

end Docking
