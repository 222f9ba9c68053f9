import Docking.Proofs.Dock.Content

/-!
# Surfaces are mounted and unmounted in turn

The commands about one surface follow a protocol. The surface is mounted and unmounted in turn,
beginning with a mount, and it is ended at most once, while it is not mounted; then it is not named
again. A `Display` is what the commands so far make of a surface, and `Display.next` refuses a
command that is out of order.

What a course does to a tab is in order for the surface of that tab, and it leaves the display of
all other surfaces as it is.

## Main definitions

* `Display`, `Display.after`: how a surface is shown after some commands.
* `LastMounted`: the panel that a surface was mounted in last.

## Main results

* `after_eq_some_iff`: a surface is shown in the panel that it was mounted in last.
* `run_mounting`: a run emits commands in order, and they show the surface of every docked tab in
  the panel of the tab, and nothing else.
-/

namespace Docking

/-! ## Displays -/

/-- How a surface is shown. -/
inductive Display where
  /-- It has not been shown yet. -/
  | absent
  /-- It is shown in a panel. -/
  | shown (panel : NodeId)
  /-- It was shown, and is not shown now. -/
  | hidden
  /-- It was ended. -/
  | ended
  deriving DecidableEq, Repr

namespace Display

/-- The display of the surface `s` after one more command, or nothing if the command is out of
order. A batch is out of order, because a dock queues none. -/
def next (s : SurfaceId) (x : Display) : Command → Option Display
  | .mount t panel =>
    if t = s then
      match x with
      | absent | hidden => some (shown panel)
      | shown _ | ended => none
    else some x
  | .unmount t =>
    if t = s then
      match x with
      | shown _ => some hidden
      | absent | hidden | ended => none
    else some x
  | .destroy t =>
    if t.id = s then
      match x with
      | hidden => some ended
      | absent | shown _ | ended => none
    else some x
  | .batch _ => none
  | .nothing | .redraw | .detachWindow .. | .closeWindow _ | .raiseWindow _ | .instantiate .. =>
    some x

/-- The display of a surface after some commands, if they are in order. -/
def after (s : SurfaceId) (cs : List Command) : Option Display := cs.foldlM (next s) absent

/-- The display of the surface of a tab that was opened. -/
def ofStay : Option Stay → Display
  | none => ended
  | some (.docked panel _) => shown panel
  | some (.floating ..) => hidden

end Display

/-- The last of the commands that mount a surface or unmount it mounts it in a panel. -/
def LastMounted (s : SurfaceId) (panel : NodeId) (cs : List Command) : Prop :=
  ∃ before after, cs = before ++ .mount s panel :: after ∧
    ∀ c ∈ after, c ≠ .unmount s ∧ ∀ other, c ≠ .mount s other

namespace Display

section Display

variable {s : SurfaceId} {x y : Display} {cs : List Command} {panel : NodeId}

theorem ofStay_eq_shown_iff {st : Option Stay} :
    ofStay st = shown panel ↔ st.bind Stay.panel? = some panel := by
  cases st with
  | none => simp [ofStay]
  | some st => cases st <;> simp [ofStay, Stay.panel?]

theorem after_append (as bs : List Command) :
    after s (as ++ bs) = (after s as).bind fun x => bs.foldlM (next s) x := List.foldlM_append

/-- Commands that are not about content do not matter. -/
theorem after_content : after s (Command.content cs) = after s cs := by
  unfold after
  generalize absent = x
  induction cs generalizing x with
  | nil => rfl
  | cons c cs ih =>
      cases c with
      | mount | unmount | destroy | batch =>
          rw [Command.content, List.filter_cons_of_pos rfl, List.foldlM_cons, List.foldlM_cons]
          exact bind_congr ih
      | _ => exact ih x

/-- What a command in order can do to the display of a surface. -/
theorem next_cases {c : Command} (h : next s x c = some y) :
    (y = x ∧ c ≠ .unmount s ∧ ∀ other, c ≠ .mount s other) ∨
      (∃ panel, c = .mount s panel ∧ (x = absent ∨ x = hidden) ∧ y = shown panel) ∨
      (∃ panel, c = .unmount s ∧ x = shown panel ∧ y = hidden) ∨
      ∃ t, c = .destroy t ∧ x = hidden ∧ y = ended := by
  cases c with
  | mount t panel =>
      by_cases ht : t = s
      · subst ht
        refine .inr (.inl ⟨panel, rfl, ?_⟩)
        cases x <;> simp_all [next]
      · refine .inl ⟨?_, by simp, by simp [ht]⟩
        simpa [next, ht] using h.symm
  | unmount t =>
      by_cases ht : t = s
      · subst ht
        refine .inr (.inr (.inl ?_))
        cases x <;> simp_all [next]
      · refine .inl ⟨?_, by simp [ht], by simp⟩
        simpa [next, ht] using h.symm
  | destroy t =>
      by_cases ht : t.id = s
      · refine .inr (.inr (.inr ⟨t, rfl, ?_⟩))
        cases x <;> simp_all [next]
      · refine .inl ⟨?_, by simp, by simp⟩
        simpa [next, ht] using h.symm
  | batch => cases h
  | _ => exact .inl ⟨(Option.some.inj h).symm, by simp, by simp⟩

/-- A surface that is shown stays where it is until it is unmounted. -/
theorem foldlM_shown (hcs : ∀ c ∈ cs, c ≠ .unmount s)
    (h : cs.foldlM (next s) (shown panel) = some x) : x = shown panel := by
  induction cs with
  | nil => exact (Option.some.inj h).symm
  | cons c cs ih =>
      rw [List.foldlM_cons, Option.bind_eq_bind, Option.bind_eq_some_iff] at h
      obtain ⟨y, hy, hfold⟩ := h
      rcases next_cases hy with ⟨rfl, -⟩ | ⟨_, -, h | h, -⟩ | ⟨_, rfl, -⟩ | ⟨_, -, h, -⟩
      · exact ih (fun c hc => hcs c (List.mem_cons_of_mem _ hc)) hfold
      · cases h
      · cases h
      · exact absurd rfl (hcs _ (List.mem_cons_self ..))
      · cases h

/-- If commands are in order, they leave a surface in the panel in which it was mounted last. -/
theorem after_eq_some_iff (h : after s cs = some x) :
    x = shown panel ↔ LastMounted s panel cs := by
  constructor
  · rintro rfl
    induction cs using List.reverseRecOn with
    | nil => cases h
    | append_singleton cs c ih =>
        rw [after_append, Option.bind_eq_some_iff] at h
        obtain ⟨y, hy, hnext⟩ := h
        simp only [List.foldlM_cons, List.foldlM_nil, bind_pure] at hnext
        rcases next_cases hnext with ⟨rfl, hc⟩ | ⟨_, rfl, -, h⟩ | ⟨_, -, -, h⟩ | ⟨_, -, -, h⟩
        · obtain ⟨before, rest, rfl, hrest⟩ := ih hy
          refine ⟨before, rest ++ [c], by simp, fun c' hc' => ?_⟩
          rcases List.mem_append.1 hc' with hc' | hc'
          · exact hrest c' hc'
          · rwa [List.mem_singleton.1 hc']
        · cases h
          exact ⟨cs, [], rfl, fun c hc => by cases hc⟩
        · cases h
        · cases h
  · rintro ⟨before, rest, rfl, hrest⟩
    rw [after_append, Option.bind_eq_some_iff] at h
    obtain ⟨y, -, hfold⟩ := h
    rw [List.foldlM_cons, Option.bind_eq_bind, Option.bind_eq_some_iff] at hfold
    obtain ⟨z, hmount, hfold⟩ := hfold
    rcases next_cases hmount with ⟨-, -, hne⟩ | ⟨_, hc, -, rfl⟩ | ⟨_, hc, -⟩ | ⟨_, hc, -⟩
    · exact absurd rfl (hne panel)
    · cases hc
      exact foldlM_shown (fun c hc => (hrest c hc).1) hfold
    · cases hc
    · cases hc

/-! ## Courses -/

/-- Commands about another surface do not matter. -/
theorem foldlM_shift_of_ne {st st' : Stay} (hentry : st'.entry = st.entry)
    (hs : st.entry.surface.id ≠ s) (x : Display) :
    (st.takenDown ++ st'.shown).foldlM (next s) x = some x := by
  cases st <;> cases st' <;> simp_all [Stay.takenDown, Stay.shown, Stay.panel?, Stay.entry, next]

theorem foldlM_close_of_ne {st : Stay} (hs : st.entry.surface.id ≠ s) (x : Display) :
    (st.takenDown ++ [Command.destroy st.entry.surface]).foldlM (next s) x = some x := by
  cases st <;> simp_all [Stay.takenDown, Stay.panel?, Stay.entry, next]

/-- The commands of a shift lead from one display to the other. -/
theorem foldlM_shift {st st' : Stay} (hentry : st'.entry = st.entry) :
    (st.takenDown ++ st'.shown).foldlM (next st.entry.surface.id) (ofStay (some st)) =
      some (ofStay (some st')) := by
  cases st <;> cases st' <;>
    simp_all [Stay.takenDown, Stay.shown, Stay.panel?, Stay.entry, next, ofStay]

theorem foldlM_close (st : Stay) :
    (st.takenDown ++ [Command.destroy st.entry.surface]).foldlM (next st.entry.surface.id)
      (ofStay (some st)) = some (ofStay none) := by
  cases st <;> simp [Stay.takenDown, Stay.panel?, Stay.entry, next, ofStay]

end Display

end Display

namespace Book

/-- The commands `cs` are in order for every surface, and they lead to the displays that the book
tells. A surface that was opened for no tab has not been shown. -/
structure Displays (b : Book) (es : List TabEntry) (cs : List Command) : Prop extends
    b.Knows es where
  opened : ∀ e ∈ es, Display.after e.surface.id cs = some (.ofStay (b.stays e.id))
  absent : ∀ {s}, (∀ e ∈ es, e.surface.id ≠ s) → Display.after s cs = some .absent

section Displays

variable {b b' : Book} {op : Operation} {cmds cs : List Command} {es : List TabEntry}

theorem displays_empty : empty.Displays [] [] where
  toKnows := knows_empty
  opened := fun e he => by cases he
  absent := fun _ => rfl

/-- Commands that lead one tab from its display to another one, and concern no other surface. -/
private theorem Displays.change (h : b.Displays es cs)
    (hdistinct : (es.map fun e => e.surface.id).Nodup) {tab : TabId} {st : Stay}
    {new : Option Stay} (hst : b.stays tab = some st) (hknows : (b.set tab new).Knows es)
    (hself : cmds.foldlM (Display.next st.entry.surface.id) (.ofStay (some st)) =
      some (.ofStay new))
    (hother : ∀ {s}, st.entry.surface.id ≠ s → ∀ x, cmds.foldlM (Display.next s) x = some x) :
    (b.set tab new).Displays es (cs ++ cmds) where
  toKnows := hknows
  opened := by
    intro e he
    rw [Display.after_append, h.opened e he, Option.bind_some]
    obtain rfl : st.entry.id = tab := h.named hst
    by_cases hid : st.entry.id = e.id
    · obtain rfl := h.eq_of_id (h.known hst) he hid
      rw [hst, stays_set_self]
      exact hself
    · rw [stays_set_of_ne b hid]
      refine hother (fun hs => hid ?_) _
      rw [List.inj_on_of_nodup_map hdistinct (h.known hst) he hs]
  absent := by
    intro s hs
    rw [Display.after_append, h.absent hs]
    exact hother (hs _ (h.known hst)) _

/-- Along every course the commands stay in order. -/
theorem Displays.handle (h : b.Displays es cs) (hcourse : Handling b op b' cmds)
    (hdistinct : ((es ++ b.newTab op).map fun e => e.surface.id).Nodup) :
    b'.Displays (es ++ b.newTab op) (cs ++ cmds) := by
  have hknows := h.toKnows.handle hcourse
  cases hcourse with
  | still hop =>
      rw [newTab_of_none b hop, List.append_nil, List.append_nil]
      exact h
  | @enter _ title surface hop panel =>
      have hnew : b.newTab op = [⟨⟨b.next⟩, title, surface⟩] := by
        rw [newTab, hop]
        rfl
      rw [hnew] at hknows hdistinct ⊢
      rw [List.map_append, List.nodup_append] at hdistinct
      obtain ⟨-, -, hne⟩ := hdistinct
      have hne : ∀ e ∈ es, e.surface.id ≠ surface.id := fun e he =>
        hne _ (List.mem_map_of_mem he) _ (List.mem_singleton_self _)
      refine { toKnows := hknows, opened := ?_, absent := ?_ }
      · intro e he
        rw [Display.after_append]
        rcases List.mem_append.1 he with he | he
        · rw [h.opened e he, enter, stays_set_of_ne _ (h.id_ne he).symm]
          simp [Display.next, (hne e he).symm]
        · rw [List.mem_singleton.1 he, h.absent hne, enter, stays_set_self]
          simp [Display.next, Display.ofStay]
      · intro s hs
        have hsurface : surface.id ≠ s := hs _ (List.mem_append_right _ (List.mem_singleton_self _))
        rw [Display.after_append, h.absent fun e he => hs e (List.mem_append_left _ he)]
        simp [Display.next, hsurface]
  | shift hop hst st' hentry =>
      rw [newTab_of_none b hop, List.append_nil] at hknows hdistinct ⊢
      exact h.change hdistinct hst hknows (Display.foldlM_shift hentry)
        (Display.foldlM_shift_of_ne hentry)
  | close hst =>
      rw [newTab_of_none b rfl, List.append_nil] at hknows hdistinct ⊢
      exact h.change hdistinct hst hknows (Display.foldlM_close _) Display.foldlM_close_of_ne

end Displays

end Book

/-! ## Runs -/

namespace Dock

/-- After every run the emitted commands lead to the displays that the book tells. -/
theorem run_displays (settings : DragSettings) (ops : List Operation) :
    ∃ l b, ((new settings).run ops).Keeps l b ∧
      ((((new settings).openings ops).map fun e => e.surface.id).Nodup →
        b.Displays ((new settings).openings ops)
          (Command.content ((new settings).emitted ops))) := by
  refine run_book settings ops (motive := fun ops b =>
    (((new settings).openings ops).map fun e => e.surface.id).Nodup →
      b.Displays ((new settings).openings ops) (Command.content ((new settings).emitted ops)))
    (fun _ => Book.displays_empty) ?_
  intro ops op l b b' h k hcourse hdistinct
  have hemitted : Command.content ((new settings).emitted (ops ++ [op])) =
      Command.content ((new settings).emitted ops) ++
        Command.content (Command.work (((new settings).run ops).queued op)) := by
    rw [emitted_concat, Command.content_work]
    exact List.filter_append ..
  rw [openings_concat, h.opened_eq] at hdistinct ⊢
  rw [hemitted]
  refine (k ?_).handle hcourse.handling hdistinct
  rw [List.map_append] at hdistinct
  exact hdistinct.of_append_left

/-- In every run in which surfaces of distinct names are opened, the commands about each surface are
in order. After the run a surface is mounted, by the last command about it, in a panel if and only
if its tab is docked in that panel. -/
theorem run_mounting (settings : DragSettings) (ops : List Operation)
    (hdistinct : (((new settings).openings ops).map fun e => e.surface.id).Nodup)
    (s : SurfaceId) :
    (Display.after s ((new settings).emitted ops)).isSome ∧
      ∀ panel, LastMounted s panel ((new settings).emitted ops) ↔
        ∃ e ∈ (new settings).openings ops, e.surface.id = s ∧
          ((new settings).run ops).panelOf? e.id = some panel := by
  obtain ⟨l, b, h, hdisplays⟩ := run_displays settings ops
  have k := hdisplays hdistinct
  by_cases hs : ∃ e ∈ (new settings).openings ops, e.surface.id = s
  · obtain ⟨e, he, rfl⟩ := hs
    have hafter := Display.after_content.symm.trans (k.opened e he)
    refine ⟨by rw [hafter]; rfl, fun panel => ?_⟩
    rw [← Display.after_eq_some_iff hafter, Display.ofStay_eq_shown_iff, ← h.panelOf?_eq]
    constructor
    · exact fun hpanel => ⟨e, he, rfl, hpanel⟩
    · rintro ⟨e', he', hsurface, hpanel⟩
      rwa [List.inj_on_of_nodup_map hdistinct he he' hsurface.symm]
  · have hnone : ∀ e ∈ (new settings).openings ops, e.surface.id ≠ s :=
      fun e he hid => hs ⟨e, he, hid⟩
    have hafter := Display.after_content.symm.trans (k.absent hnone)
    refine ⟨by rw [hafter]; rfl, fun panel => ?_⟩
    rw [← Display.after_eq_some_iff hafter]
    constructor
    · exact fun hpanel => by cases hpanel
    · rintro ⟨e, he, hid, -⟩
      exact absurd hid (hnone e he)

/-- The surface of the docked tab is mounted in the end, and those of the other two are not. -/
theorem threeFates_mounting :
    (((new .standard).openings threeFates).map fun e => e.surface.id).Nodup ∧
      (∀ s, (Display.after s ((new .standard).emitted threeFates)).isSome) ∧
      ∀ s panel, LastMounted s panel ((new .standard).emitted threeFates) ↔
        s = ⟨1⟩ ∧ panel = ⟨4⟩ := by
  have hdistinct : (((new .standard).openings threeFates).map fun e => e.surface.id).Nodup := by
    decide
  have hothers : ∀ e ∈ (new .standard).openings threeFates,
      ((new .standard).run threeFates).panelOf? e.id =
        if e.surface.id = ⟨1⟩ then some ⟨4⟩ else none := by
    decide
  refine ⟨hdistinct, fun s => (run_mounting .standard threeFates hdistinct s).1, fun s panel => ?_⟩
  rw [(run_mounting .standard threeFates hdistinct s).2 panel]
  constructor
  · rintro ⟨e, he, rfl, hpanel⟩
    rw [hothers e he] at hpanel
    split at hpanel
    · next hid => exact ⟨hid, (Option.some.inj hpanel).symm⟩
    · cases hpanel
  · rintro ⟨rfl, rfl⟩
    exact ⟨⟨⟨1⟩, "A", ⟨1⟩, "p"⟩, .head _, rfl, by decide⟩

end Dock

end Docking
