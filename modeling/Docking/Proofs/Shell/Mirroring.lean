import Docking.Plugin.Registry
import Docking.Proofs.Shell.Errands

/-!
# Registries that mirror a book

A registry mirrors a book if the surfaces that are alive are those of the open tabs, one for each,
and every surface is shown where its tab is docked and nowhere else. An operation changes the book
at once, but the registry has to be told by commands. `Owed` lists the commands that are owed to the
registry after one operation: either they lead to a registry that mirrors the new book, or the book
is as it was and a tab is to be made first.

## Main definitions

* `Book.surface?`: the name of a tab's surface.
* `Registry.Mirrors`: the registry is as the book says.
* `Command.upkeep`, `Owed`: what is still to be told to the registry.

## Main results

* `Mirrors.enter`, `Mirrors.shift`, `Mirrors.close`: one tab with its surface.
* `Mirrors.owed`, `Mirrors.owed_enter`: what an operation leaves to be told.
-/

namespace Docking

namespace Book

/-- The name of a tab's surface. -/
def surface? (b : Book) (tab : TabId) : Option SurfaceId :=
  (b.stays tab).map fun st => st.entry.surface.id

theorem surface?_of_stays {b : Book} {tab : TabId} {st : Stay} (hst : b.stays tab = some st) :
    b.surface? tab = some st.entry.surface.id := by
  rw [surface?, hst]
  rfl

theorem surface?_set (b : Book) (tab j : TabId) (st : Option Stay) :
    (b.set tab st).surface? j =
      if tab = j then st.map fun st => st.entry.surface.id else b.surface? j := by
  rw [surface?, stays_set]
  split <;> rfl

/-- The surfaces without one tab are those of the others. -/
theorem surface?_set_none {b : Book} {tab j : TabId} {id : SurfaceId} :
    (b.set tab none).surface? j = some id ↔ tab ≠ j ∧ b.surface? j = some id := by
  rw [surface?_set]
  split
  · next htab => simp [htab]
  · next htab => simp [htab]

/-- The surfaces with a new tab are that of the new tab and those of the others. -/
theorem surface?_enter {b : Book} (hnew : b.stays ⟨b.next⟩ = none) {panel : NodeId}
    {title : String} {surface : Surface} {j : TabId} {id : SurfaceId} :
    (b.enter panel title surface).surface? j = some id ↔
      j = ⟨b.next⟩ ∧ id = surface.id ∨ b.surface? j = some id := by
  rw [enter, surface?_set]
  split
  · next htab =>
    subst htab
    have hnone : b.surface? ⟨b.next⟩ = none := by
      rw [surface?, hnew]
      rfl
    simp [hnone, Stay.entry, eq_comm]
  · next htab =>
    have hother : b.surface? j = surface? { b with next := b.next + 1 } j := rfl
    simp [hother, Ne.symm htab]

end Book

namespace Registry

variable (r : Registry) (surface : SurfaceId) (id : SurfaceId)

theorem mountedIn?_mount (panel : NodeId) :
    (r.mount surface panel).mountedIn? id =
      if surface = id then some panel else r.mountedIn? id := Table.get?_insert ..

theorem mountedIn?_unmount :
    (r.unmount surface).mountedIn? id = if surface = id then none else r.mountedIn? id :=
  Table.get?_erase ..

theorem mountedIn?_destroy (surface : Surface) :
    (r.destroy surface).mountedIn? id = if surface.id = id then none else r.mountedIn? id :=
  Table.get?_erase ..

/-- The surfaces that are alive are those of the tabs, and each is shown where its tab is docked. -/
structure Mirrors (r : Registry) (b : Book) : Prop where
  nodup : r.live.Nodup
  /-- Surfaces are numbered from one on. -/
  numbered : ∀ id ∈ r.live, id.number ≤ r.created
  alive : ∀ {id}, id ∈ r.live ↔ ∃ tab, b.surface? tab = some id
  /-- No two tabs have the same surface. -/
  single : ∀ {i j id}, b.surface? i = some id → b.surface? j = some id → i = j
  shown : ∀ {tab st}, b.stays tab = some st → r.mountedIn? st.entry.surface.id = st.panel?
  hidden : ∀ {id}, id ∉ r.live → r.mountedIn? id = none

section Mirrors

variable {r r' : Registry} {b b' : Book} {tab : TabId} {st st' : Stay}

theorem mirrors_new (manifests : List Manifest) (enabled : List String) :
    (new manifests enabled).Mirrors .empty where
  nodup := .nil
  numbered := fun id hid => by cases hid
  alive := by
    intro id
    constructor
    · exact fun hid => by cases hid
    · rintro ⟨tab, htab⟩
      cases htab
  single := fun hi => by cases hi
  shown := fun hst => by cases hst
  hidden := fun _ => rfl

/-- What is enabled does not matter. -/
theorem Mirrors.setEnabled (h : r.Mirrors b) (plugin : String) (enabled : Bool) :
    (r.setEnabled plugin enabled).Mirrors b := { h with }

/-- The surface of a tab is alive. -/
theorem Mirrors.mem_live (h : r.Mirrors b) (hst : b.stays tab = some st) :
    st.entry.surface.id ∈ r.live := h.alive.2 ⟨tab, Book.surface?_of_stays hst⟩

/-- The surfaces of other tabs have other names. -/
theorem Mirrors.id_ne (h : r.Mirrors b) (hst : b.stays tab = some st) {j : TabId} {x : Stay}
    (hj : b.stays j = some x) (hne : tab ≠ j) : st.entry.surface.id ≠ x.entry.surface.id := by
  intro hid
  have hself := Book.surface?_of_stays hst
  rw [hid] at hself
  exact hne (h.single hself (Book.surface?_of_stays hj))

/-- A tab goes somewhere else, and its surface with it. -/
theorem Mirrors.shift (h : r.Mirrors b) (hst : b.stays tab = some st)
    (hentry : st'.entry = st.entry) (hlive : r'.live = r.live) (hcreated : r'.created = r.created)
    (hmounted : ∀ id, r'.mountedIn? id =
      if st.entry.surface.id = id then st'.panel? else r.mountedIn? id) :
    r'.Mirrors (b.set tab (some st')) := by
  have hsurface : ∀ j, (b.set tab (some st')).surface? j = b.surface? j := by
    intro j
    rw [Book.surface?_set]
    split
    · next htab => rw [← htab, Book.surface?_of_stays hst, Option.map_some, hentry]
    · rfl
  refine
    { nodup := hlive ▸ h.nodup
      numbered := ?_
      alive := ?_
      single := ?_
      shown := ?_
      hidden := ?_ }
  · rw [hlive, hcreated]
    exact h.numbered
  · simp only [hlive, hsurface]
    exact h.alive
  · simp only [hsurface]
    exact h.single
  · intro j x hj
    rw [Book.stays_set] at hj
    split at hj
    · cases hj
      rw [hmounted, if_pos (by rw [hentry])]
    · next htab => rw [hmounted, if_neg (h.id_ne hst hj htab), h.shown hj]
  · intro id hid
    rw [hlive] at hid
    have hne : st.entry.surface.id ≠ id := by
      rintro rfl
      exact hid (h.mem_live hst)
    rw [hmounted, if_neg hne, h.hidden hid]

/-- A tab is closed, and its surface ended. -/
theorem Mirrors.close (h : r.Mirrors b) (hst : b.stays tab = some st)
    (hlive : r'.live = r.live.filter (· ≠ st.entry.surface.id)) (hcreated : r'.created = r.created)
    (hmounted : ∀ id, r'.mountedIn? id =
      if st.entry.surface.id = id then none else r.mountedIn? id) :
    r'.Mirrors (b.set tab none) := by
  have hself := Book.surface?_of_stays hst
  have hmem : ∀ {id}, id ∈ r'.live ↔ id ∈ r.live ∧ id ≠ st.entry.surface.id := by
    intro id
    rw [hlive, List.mem_filter, decide_eq_true_eq]
  refine
    { nodup := hlive ▸ h.nodup.filter _
      numbered := ?_
      alive := ?_
      single := ?_
      shown := ?_
      hidden := ?_ }
  · intro id hid
    rw [hcreated]
    exact h.numbered id (hmem.1 hid).1
  · intro id
    rw [hmem, h.alive]
    constructor
    · rintro ⟨⟨j, hj⟩, hne⟩
      refine ⟨j, Book.surface?_set_none.2 ⟨?_, hj⟩⟩
      rintro rfl
      exact hne (Option.some.inj (hj.symm.trans hself))
    · rintro ⟨j, hj⟩
      obtain ⟨htab, hj⟩ := Book.surface?_set_none.1 hj
      refine ⟨⟨j, hj⟩, ?_⟩
      rintro rfl
      exact htab (h.single hself hj)
  · intro i j id hi hj
    exact h.single (Book.surface?_set_none.1 hi).2 (Book.surface?_set_none.1 hj).2
  · intro j x hj
    rw [Book.stays_set] at hj
    split at hj
    · cases hj
    · next htab => rw [hmounted, if_neg (h.id_ne hst hj htab), h.shown hj]
  · intro id hid
    rw [hmounted]
    split
    · rfl
    · next hne => exact h.hidden fun hlive => hid (hmem.2 ⟨hlive, Ne.symm hne⟩)

/-- A tab is opened with a surface that was just made. -/
theorem Mirrors.enter (h : r.Mirrors b) {plugin title : String} {surface : Surface}
    (hcreate : r.create plugin = some (title, surface, r')) (hnew : b.stays ⟨b.next⟩ = none)
    (panel : NodeId) : (r'.mount surface.id panel).Mirrors (b.enter panel title surface) := by
  obtain ⟨_, -, hcreate⟩ := Option.map_eq_some_iff.1 hcreate
  cases hcreate
  -- no surface has the new number yet
  have hfresh : (⟨r.created + 1⟩ : SurfaceId) ∉ r.live := by
    intro hmem
    exact Nat.not_succ_le_self _ (h.numbered _ hmem)
  have hsurface : ∀ {j id}, (b.enter panel title ⟨⟨r.created + 1⟩, plugin⟩).surface? j = some id ↔
      j = ⟨b.next⟩ ∧ id = ⟨r.created + 1⟩ ∨ b.surface? j = some id := Book.surface?_enter hnew
  have hold : ∀ {j}, b.surface? j ≠ some ⟨r.created + 1⟩ := fun hj => hfresh (h.alive.2 ⟨_, hj⟩)
  refine
    { nodup := ?_
      numbered := ?_
      alive := ?_
      single := ?_
      shown := ?_
      hidden := ?_ }
  · show (r.live ++ [_]).Nodup
    rw [← List.concat_eq_append]
    exact .concat hfresh h.nodup
  · intro id hid
    rcases List.mem_append.1 hid with hid | hid
    · exact Nat.le_succ_of_le (h.numbered id hid)
    · exact Nat.le_of_eq (congrArg SurfaceId.number (List.mem_singleton.1 hid))
  · intro id
    simp only [hsurface]
    constructor
    · intro hid
      rcases List.mem_append.1 hid with hid | hid
      · obtain ⟨j, hj⟩ := h.alive.1 hid
        exact ⟨j, .inr hj⟩
      · exact ⟨_, .inl ⟨rfl, List.mem_singleton.1 hid⟩⟩
    · rintro ⟨j, ⟨-, rfl⟩ | hj⟩
      · exact List.mem_append_right _ (List.mem_singleton_self _)
      · exact List.mem_append_left _ (h.alive.2 ⟨j, hj⟩)
  · intro i j id hi hj
    rcases hsurface.1 hi with ⟨rfl, rfl⟩ | hi
    · rcases hsurface.1 hj with ⟨rfl, -⟩ | hj
      · rfl
      · exact absurd hj hold
    · rcases hsurface.1 hj with ⟨rfl, rfl⟩ | hj
      · exact absurd hi hold
      · exact h.single hi hj
  · intro j x hj
    rw [mountedIn?_mount]
    rw [Book.enter, Book.stays_set] at hj
    split at hj
    · cases hj
      exact if_pos rfl
    · have hj : b.stays j = some x := hj
      have hne : (⟨r.created + 1⟩ : SurfaceId) ≠ x.entry.surface.id := by
        intro hid
        exact hfresh (hid ▸ h.mem_live hj)
      rw [if_neg hne]
      exact h.shown hj
  · intro id hid
    obtain ⟨hlive, hne⟩ : id ∉ r.live ∧ id ≠ ⟨r.created + 1⟩ := by
      simpa [mount] using hid
    rw [mountedIn?_mount, if_neg (Ne.symm hne)]
    exact h.hidden hlive

end Mirrors

end Registry

/-! ## What is owed to the registry -/

namespace Command

/-- Whether a command concerns the registry. -/
def isUpkeep : Command → Bool
  | mount .. | unmount _ | destroy _ | instantiate .. => true
  | _ => false

/-- The commands among some commands that concern the registry, also those in batches. -/
def upkeep (cs : List Command) : List Command := ofKind isUpkeep cs

end Command

/-- The commands that are owed to a registry until it mirrors a book. If a tab is to be made, that
is the only one, and the registry mirrors the book as it is. -/
inductive Owed (b : Book) : Registry → List Command → Prop
  /-- Nothing is owed. -/
  | nothing {r : Registry} (h : r.Mirrors b) : Owed b r []
  /-- A surface is to be shown. -/
  | mount {r : Registry} {surface : SurfaceId} {panel : NodeId} {more : List Command}
      (h : Owed b (r.mount surface panel) more) : Owed b r (.mount surface panel :: more)
  /-- A surface is to be taken down. -/
  | unmount {r : Registry} {surface : SurfaceId} {more : List Command}
      (h : Owed b (r.unmount surface) more) : Owed b r (.unmount surface :: more)
  /-- A surface is to be ended. -/
  | destroy {r : Registry} {surface : Surface} {more : List Command}
      (h : Owed b (r.destroy surface) more) : Owed b r (.destroy surface :: more)
  /-- A tab is to be made. -/
  | instantiate {r : Registry} {plugin : String} {target : Option DropTarget}
      (h : r.Mirrors b) : Owed b r [.instantiate plugin target]

namespace Registry

section Owed

variable {r r' : Registry} {b b' : Book} {op : Operation} {cmds : List Command} {tab : TabId}
  {st : Stay}

/-- The surface of a floating tab is shown nowhere. -/
private theorem Mirrors.mountedIn?_floating (h : r.Mirrors b) {window : Option Window}
    {entry : TabEntry} (hst : b.stays tab = some (.floating window entry)) (id : SurfaceId) :
    r.mountedIn? id = if entry.surface.id = id then none else r.mountedIn? id := by
  split
  · next hid =>
    rw [← hid]
    exact h.shown hst
  · rfl

/-- A tab that was shown in a panel, or in none, is docked. -/
private theorem Mirrors.dock (h : r.Mirrors b) (hst : b.stays tab = some st) (panel : NodeId)
    (hlive : r'.live = r.live) (hcreated : r'.created = r.created)
    (hmounted : ∀ id, st.entry.surface.id ≠ id → r'.mountedIn? id = r.mountedIn? id) :
    (r'.mount st.entry.surface.id panel).Mirrors (b.set tab (some (.docked panel st.entry))) := by
  refine h.shift hst rfl hlive hcreated fun id => ?_
  rw [mountedIn?_mount]
  split
  · rfl
  · next hne => exact hmounted id hne

/-- What an operation leaves to be told to the registry, if it is given no surface. -/
theorem Mirrors.owed (h : r.Mirrors b) (hop : op.content? = none) (hcourse : Course b op b' cmds) :
    Owed b' r (Command.upkeep cmds) := by
  cases hcourse with
  | rest | raise | refuse | miss => exact .nothing h
  | enter hop' =>
      rw [hop] at hop'
      cases hop'
  | @close tab st hst =>
      cases st with
      | docked panel entry =>
          refine .unmount (.destroy (.nothing (h.close hst rfl rfl fun id => ?_)))
          show _ = if entry.surface.id = id then none else r.mountedIn? id
          rw [mountedIn?_destroy, mountedIn?_unmount]
          split <;> rfl
      | floating window entry =>
          have hcmds : Command.upkeep (Stay.farewell (.floating window entry)) =
              [.destroy entry.surface] := by cases window <;> rfl
          rw [hcmds]
          exact .destroy (.nothing (h.close hst rfl rfl fun id => mountedIn?_destroy ..))
  | move _ hst panel =>
      refine .unmount (.mount (.nothing (h.dock hst panel rfl rfl fun id hne => ?_)))
      exact (mountedIn?_unmount ..).trans (if_neg hne)
  | float _ hst =>
      exact .unmount (.nothing (h.shift hst rfl rfl rfl fun id => mountedIn?_unmount ..))
  | attach hst => exact .nothing (h.shift hst rfl rfl rfl (h.mountedIn?_floating hst))
  | land hst panel | drop hst panel =>
      exact .mount (.nothing (h.dock hst panel rfl rfl fun _ _ => rfl))
  | @request payload point target _ =>
      have hcmds : Command.upkeep
          (.instantiate payload.plugin target :: payload.window.toList.map .closeWindow) =
            [.instantiate payload.plugin target] := by cases payload.window <;> rfl
      rw [hcmds]
      exact .instantiate h

/-- What the opening of a tab leaves to be told to the registry that made the surface. -/
theorem Mirrors.owed_enter (h : r.Mirrors b) {plugin title : String} {surface : Surface}
    (hcreate : r.create plugin = some (title, surface, r'))
    (hop : op.content? = some (title, surface)) (hcourse : Course b op b' cmds) :
    Owed b' r' (Command.upkeep cmds) := by
  obtain ⟨hnew, panel, rfl, rfl⟩ := hcourse.enters hop
  exact .mount (.nothing (h.enter hcreate hnew panel))

end Owed

end Registry

end Docking
