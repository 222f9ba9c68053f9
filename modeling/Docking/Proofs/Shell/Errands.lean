import Docking.Proofs.Shell.Tally
import Docking.Shell.Run

/-!
# Errands

Of the commands of a dock the shell carries out most at once and without effect on windows. The
others are errands: a window is to be opened, closed or raised, or a new tab is to be made. After
one operation at most two errands are left to be run, and `Due` lists what they can be, with the
tally of windows in each case. Running one errand leads from one of these cases to another.

## Main definitions

* `Command.errands`: the errands of an agenda.
* `Due`: the errands that are left, with the tally that goes with them.

## Main results

* `Tally.due`: the errands after an operation.
* `Due.perform`, `Due.carryOut`: one command of an agenda, and all of it.
* `Due.settle`: after the reports of the host the tally is exact.
-/

namespace Docking

/-! ## Errands of an agenda -/

namespace Command

/-- Whether a command concerns windows or asks for a new tab. -/
def isErrand : Command → Bool
  | detachWindow .. | closeWindow _ | raiseWindow _ | instantiate .. => true
  | _ => false

/-- The errands among some commands, also those in batches. -/
def errands (cs : List Command) : List Command := (flattenAll cs).filter isErrand

/-- The commands of a kind among some commands, also those in batches. -/
def ofKind (kind : Command → Bool) (cs : List Command) : List Command :=
  (flattenAll cs).filter kind

theorem flatten_of_mem_flatten (c x : Command) (h : x ∈ c.flatten) : x.flatten = [x] := by
  induction c using flatten_induction with
  | nothing => cases h
  | single c hself =>
      rw [hself, List.mem_singleton] at h
      rw [h, hself]
  | batch cs ih =>
      rw [flatten, flattenAll_eq_flatMap] at h
      obtain ⟨c, hc, hx⟩ := List.mem_flatMap.1 h
      exact ih c hc hx

theorem flatten_of_mem_flattenAll (cs : List Command) (x : Command) (h : x ∈ flattenAll cs) :
    x.flatten = [x] :=
  flatten_of_mem_flatten (batch cs) x h

theorem flattenAll_flattenAll (cs : List Command) : flattenAll (flattenAll cs) = flattenAll cs := by
  have hself : ∀ ds : List Command, (∀ c ∈ ds, c.flatten = [c]) → flattenAll ds = ds := by
    intro ds h
    induction ds with
    | nil => rfl
    | cons c rest ih =>
        rw [flattenAll, h c (List.mem_cons_self ..), ih fun x hx => h x (List.mem_cons_of_mem _ hx)]
        rfl
  exact hself _ (flatten_of_mem_flattenAll cs)

section OfKind

variable (kind : Command → Bool)

theorem ofKind_cons (c : Command) (rest : List Command) :
    ofKind kind (c :: rest) = c.flatten.filter kind ++ ofKind kind rest := by
  rw [ofKind, flattenAll, List.filter_append]
  rfl

theorem ofKind_append (as bs : List Command) :
    ofKind kind (as ++ bs) = ofKind kind as ++ ofKind kind bs := by
  rw [ofKind, flattenAll_append, List.filter_append]
  rfl

/-- Making one command of several leaves the commands of every kind. -/
theorem ofKind_steps (cs : List Command) : ofKind kind (steps (batch? cs)) = ofKind kind cs := by
  rw [steps_batch?, ofKind, flattenAll_flattenAll]
  rfl

/-- Repaints do not matter for another kind. -/
theorem ofKind_work (hkind : kind redraw = false) (cs : List Command) :
    ofKind kind (work cs) = ofKind kind cs := by
  induction cs with
  | nil => rfl
  | cons c rest ih =>
      cases c with
      | redraw =>
          have hnone : (flatten redraw).filter kind = [] := by simp [flatten, hkind]
          rw [ofKind_cons, hnone]
          exact ih
      | _ =>
          rw [work, List.filter_cons_of_pos rfl, ofKind_cons, ofKind_cons]
          exact congrArg _ ih

end OfKind

theorem errands_cons (c : Command) (rest : List Command) :
    errands (c :: rest) = c.flatten.filter isErrand ++ errands rest :=
  ofKind_cons isErrand c rest

theorem errands_append (as bs : List Command) : errands (as ++ bs) = errands as ++ errands bs :=
  ofKind_append isErrand as bs

/-- Making one command of several leaves the errands. -/
theorem errands_steps (cs : List Command) : errands (steps (batch? cs)) = errands cs :=
  ofKind_steps isErrand cs

/-- A repaint is no errand. -/
theorem errands_work (cs : List Command) : errands (work cs) = errands cs :=
  ofKind_work isErrand rfl cs

end Command

namespace Shell

/-! ## Errands that are left -/

/-- The errands that are left to be run, and how the windows and the tabs stand to each other then.
At most one window is open that the dock has not been told of. -/
inductive Due (refused : List String) (strays : List Window) (s : Shell (Refusing Headless))
    (b : Book) : List Command → Prop
  /-- Nothing is left to be done. -/
  | rest (hinbox : s.inbox = []) (h : Tally refused strays s b none none) :
      Due refused strays s b []
  /-- A window will be reported to a tab that waits for it. -/
  | report {tab : TabId} {w : Window} {entry : TabEntry} (hinbox : s.inbox = [(tab, w)])
      (h : Tally refused strays s b (some w) (some tab))
      (hst : b.stays tab = some (.floating none entry)) : Due refused strays s b []
  /-- The window of a tab is to be raised. -/
  | raise {tab : TabId} {w : Window} (hinbox : s.inbox = [])
      (h : Tally refused strays s b none none) (hw : b.window? tab = some w) :
      Due refused strays s b [.raiseWindow w]
  /-- A window that no tab has is to be closed. -/
  | close {w : Window} (hinbox : s.inbox = []) (h : Tally refused strays s b (some w) none) :
      Due refused strays s b [.closeWindow w]
  /-- A window that is not open is to be closed. -/
  | stray {w : Window} (hinbox : s.inbox = []) (h : Tally refused strays s b none none)
      (hstray : w ∈ strays) (hw : w ∉ s.windows) : Due refused strays s b [.closeWindow w]
  /-- A window is to be opened for a tab. -/
  | detach {tab : TabId} {entry : TabEntry} (hinbox : s.inbox = [])
      (h : Tally refused strays s b none (some tab))
      (hst : b.stays tab = some (.floating none entry)) :
      Due refused strays s b [.detachWindow tab entry.surface.plugin]
  /-- A tab is to be made first. -/
  | instantiate {plugin : String} {target : Option DropTarget} {more : List Command}
      (h : Due refused strays s b more) :
      Due refused strays s b (.instantiate plugin target :: more)

section Due

variable {refused : List String} {strays : List Window} {s s' : Shell (Refusing Headless)}
  {b b' : Book} {op : Operation} {cmds : List Command} {c : Command}

theorem Due.keeps (h : Due refused strays s b cmds) :
    (∃ l, s.dock.Keeps l b) ∧ s.dock.outbox = [] := by
  induction h with
  | instantiate _ ih => exact ih
  | rest _ h | report _ h _ | raise _ h _ | close _ h | stray _ h _ _ | detach _ h _ =>
      exact ⟨h.keeps, h.idle⟩

/-- Only the windows, the errors, the reports and the floating tabs matter. -/
theorem Due.congr (h : Due refused strays s b cmds) (hkeeps : ∃ l, s'.dock.Keeps l b')
    (hidle : s'.dock.outbox = []) (hhost : s'.host = s.host) (hinbox : s'.inbox = s.inbox)
    (herrors : s'.hostErrors = s.hostErrors) (hfloats : b.SameFloats b') :
    Due refused strays s' b' cmds := by
  induction h with
  | rest hempty h =>
      exact .rest (hinbox.trans hempty) (h.congr hkeeps hidle hhost herrors hfloats)
  | report hone h hst =>
      exact .report (hinbox.trans hone) (h.congr hkeeps hidle hhost herrors hfloats)
        ((hfloats ..).2 hst)
  | raise hempty h hw =>
      exact .raise (hinbox.trans hempty) (h.congr hkeeps hidle hhost herrors hfloats)
        ((hfloats.window?_eq _).trans hw)
  | close hempty h =>
      exact .close (hinbox.trans hempty) (h.congr hkeeps hidle hhost herrors hfloats)
  | stray hempty h hstray hw =>
      refine .stray (hinbox.trans hempty) (h.congr hkeeps hidle hhost herrors hfloats) hstray ?_
      rwa [windows, hhost]
  | detach hempty h hst =>
      exact .detach (hinbox.trans hempty) (h.congr hkeeps hidle hhost herrors hfloats)
        ((hfloats ..).2 hst)
  | instantiate _ ih => exact .instantiate ih

/-! ### Running errands -/

/-- A new tab is docked, so it does not float. -/
theorem sameFloats_of_content {title : String} {surface : Surface}
    (hop : op.content? = some (title, surface)) (hcourse : Course b op b' cmds) :
    b.SameFloats b' ∧ Command.errands cmds = [] := by
  obtain ⟨hnew, panel, rfl, rfl⟩ := hcourse.enters hop
  refine ⟨fun tab window entry => ?_, rfl⟩
  rw [Book.enter, Book.stays_set]
  split
  · next htab => simp [← htab, hnew]
  · rfl

/-- What is queued on an empty queue is the queue afterwards. -/
theorem outbox_eq_queued {d : Dock} (hidle : d.outbox = []) (op : Operation) :
    (d.apply op).outbox = d.queued op := by
  rw [Dock.queued, hidle]
  rfl

/-- Making a tab leaves the errands behind it. -/
theorem Due.make (h : Due refused strays s b cmds) (plugin : String)
    (target : Option DropTarget) :
    ∃ b', Due refused strays (s.instantiate plugin target).2 b'
      (Command.errands (s.instantiate plugin target).1 ++ cmds) := by
  rw [Shell.instantiate_eq]
  split
  · exact ⟨b, h⟩
  · next title surface content _ =>
    obtain ⟨⟨l, hkeeps⟩, hidle⟩ := h.keeps
    obtain ⟨m, b', hkeeps', hcourse⟩ := Dock.apply_course hkeeps (.dockNew title surface target)
    obtain ⟨hfloats, herrands⟩ := sameFloats_of_content rfl hcourse
    rw [Command.errands_work, ← outbox_eq_queued hidle] at herrands
    refine ⟨b', ?_⟩
    have hnone : Command.errands (Command.steps (Command.batch?
        (s.dock.dockNew title surface target).2.outbox)) = [] := by
      rw [Command.errands_steps]
      exact herrands
    simp only [Dock.takeCommands, hnone, List.nil_append]
    exact h.congr ⟨m, hkeeps'.congr rfl rfl rfl⟩ rfl rfl rfl rfl hfloats

/-- Running the first errand of an agenda. -/
theorem Due.perform {rest : List Command}
    (h : Due refused strays s b (Command.errands (c :: rest))) :
    ∃ b', Due refused strays (s.perform c).2 b' (Command.errands ((s.perform c).1 ++ rest)) := by
  cases c with
  | nothing | redraw => exact ⟨b, h⟩
  | mount | unmount | destroy =>
      exact ⟨b, h.congr h.keeps.1 h.keeps.2 rfl rfl rfl fun _ _ _ => Iff.rfl⟩
  | detachWindow tab plugin =>
      rw [Command.errands_cons] at h
      refine ⟨b, ?_⟩
      show Due refused strays _ b (Command.errands rest)
      generalize Command.errands rest = more at h ⊢
      cases h with
      | @detach _ entry hinbox h hst =>
          by_cases hplugin : entry.surface.plugin ∈ s.host.refused
          · rw [openWindow_of_mem s tab hplugin]
            exact .rest hinbox (h.refuse hst (h.refuses ▸ hplugin))
          · obtain ⟨front, hopened⟩ := openWindow_of_notMem s tab hplugin
            rw [hopened, hinbox]
            exact .report rfl (h.create front _) hst
  | closeWindow window =>
      rw [Command.errands_cons] at h
      refine ⟨b, ?_⟩
      show Due refused strays _ b (Command.errands rest)
      generalize Command.errands rest = more at h ⊢
      cases h with
      | close hinbox h =>
          obtain ⟨front, hclosed⟩ := closeWindow_of_mem s (h.isOpen.2 (.inr rfl))
          rw [hclosed]
          exact .rest hinbox (h.close front)
      | stray hinbox h hstray hw =>
          rw [closeWindow_of_notMem s hw]
          exact .rest hinbox (h.error (.inr ⟨_, hstray, rfl⟩))
  | raiseWindow window =>
      rw [Command.errands_cons] at h
      refine ⟨b, ?_⟩
      show Due refused strays _ b (Command.errands rest)
      generalize Command.errands rest = more at h ⊢
      cases h with
      | raise hinbox h hw =>
          rw [raiseWindow_of_mem s (h.isOpen.2 (.inl ⟨_, hw⟩))]
          exact .rest hinbox { h with }
  | instantiate plugin target =>
      rw [Command.errands_cons] at h
      rw [Command.errands_append]
      generalize Command.errands rest = more at h ⊢
      cases h with
      | instantiate h => exact h.make plugin target
  | batch cs =>
      rw [Command.errands_cons] at h
      rw [Command.errands_append]
      exact ⟨b, h⟩

/-- Carrying out an agenda leaves nothing to be done, but perhaps a report. -/
theorem Due.carryOut {agenda : List Command} (h : Due refused strays s b (Command.errands agenda)) :
    ∃ b', Due refused strays (Shell.carryOut agenda s) b' [] := by
  fun_induction Shell.carryOut agenda s generalizing b with
  | case1 => exact ⟨b, h⟩
  | case2 c rest s ih =>
      obtain ⟨b', h'⟩ := h.perform
      exact ih h'

/-! ### Errands of an operation -/

theorem errands_farewell (st : Stay) :
    Command.errands st.farewell = st.window?.toList.map .closeWindow := by
  cases st with
  | docked panel x => rfl
  | floating window x => cases window <;> rfl

/-- The errands that an operation leaves, where it neither tells of a window nor hands one back. -/
theorem Tally.due (h : Tally refused strays s b none none) (hkeeps : ∃ l, s'.dock.Keeps l b')
    (hidle : s'.dock.outbox = []) (hhost : s'.host = s.host) (hinbox : s'.inbox = [])
    (herrors : s'.hostErrors = s.hostErrors) (hcourse : Course b op b' cmds)
    (hreported : op.reported? = none) (hhanded : b.handedBack? op = none)
    (hstray : ∀ w, op.named? = some w → w ∉ s.windows → w ∈ strays) :
    Due refused strays s' b' (Command.errands cmds) := by
  have hsame (hkeeps : ∃ l, s'.dock.Keeps l b) : Tally refused strays s' b none none :=
    h.congr hkeeps hidle hhost herrors fun _ _ _ => Iff.rfl
  cases hcourse with
  | rest hop => exact .rest hinbox (hsame hkeeps)
  | raise hop hst =>
      exact .raise hinbox (hsame hkeeps) (Book.window?_eq_some_iff.2 ⟨_, hst⟩)
  | enter hop hnew panel =>
      obtain ⟨hfloats, -⟩ := sameFloats_of_content hop (.enter hop hnew panel)
      exact .rest hinbox (h.congr hkeeps hidle hhost herrors hfloats)
  | @close tab st hst =>
      have hleft : Tally refused strays s' (b.set tab none) st.window? none :=
        h.leave hkeeps hidle hhost herrors hst rfl nofun
      rw [errands_farewell]
      cases hwindow : st.window? with
      | none => exact .rest hinbox (hwindow ▸ hleft)
      | some w => exact .close hinbox (hwindow ▸ hleft)
  | move hop hst panel => exact .rest hinbox (h.leave hkeeps hidle hhost herrors hst rfl nofun)
  | @float _ hop tab source entry hst =>
      exact .detach hinbox (h.leave hkeeps hidle hhost herrors hst rfl fun _ _ => rfl)
        (Book.stays_set_self ..)
  | attach => cases hreported
  | refuse => cases hreported
  | @land tab target window entry hst panel =>
      have hnone : window = none := by
        rw [Book.handedBack?, Book.window?, hst] at hhanded
        exact hhanded
      subst hnone
      exact .rest hinbox (h.leave hkeeps hidle hhost herrors hst rfl nofun)
  | miss => exact .rest hinbox (hsame hkeeps)
  | drop hst panel => exact .close hinbox (h.leave hkeeps hidle hhost herrors hst rfl nofun)
  | @request payload point target hheld =>
      refine .instantiate ?_
      show Due refused strays s' b (Command.errands (payload.window.toList.map .closeWindow))
      cases hwindow : payload.window with
      | none => exact .rest hinbox (hsame hkeeps)
      | some w =>
          have hopen : w ∉ s.windows := by
            rw [h.isOpen]
            rintro (⟨tab, htab⟩ | hspare)
            · obtain ⟨entry, hst⟩ := Book.window?_eq_some_iff.1 htab
              exact hheld w hwindow tab _ hst rfl
            · cases hspare
          refine .stray hinbox (hsame hkeeps) (hstray w hwindow hopen) ?_
          rwa [windows, hhost]

/-! ### Reports -/

/-- Several commands are carried out as one. -/
theorem Due.process {commands : List Command}
    (h : Due refused strays s b (Command.errands commands)) :
    ∃ b', Due refused strays (s.process (Command.batch? commands)) b' [] := by
  refine Due.carryOut (b := b) ?_
  rw [Command.errands_steps]
  exact h.congr h.keeps.1 h.keeps.2 rfl rfl rfl fun _ _ _ => Iff.rfl

/-- The dock is told of the window that a tab waits for. -/
theorem Due.report_due {tab : TabId} {w : Window} {rest : List (TabId × Window)}
    (h : Due refused strays s b []) (hinbox : s.inbox = (tab, w) :: rest) :
    ∃ b', Due refused strays ({ s with inbox := rest }.react (.windowOpened tab w)).2 b' [] := by
  cases h with
  | rest hempty => rw [hempty] at hinbox; cases hinbox
  | @report tab' w' entry hone h hst =>
      rw [hone] at hinbox
      cases hinbox
      obtain ⟨l, hkeeps⟩ := h.keeps
      obtain ⟨m, b', hkeeps', hcourse⟩ := Dock.apply_course hkeeps (.attachWindow tab w)
      rw [← outbox_eq_queued h.idle] at hcourse
      have hdue : Due refused strays
          { s with
            inbox := []
            dock := { (s.dock.apply (.attachWindow tab w)) with outbox := [] } } b'
          (Command.errands (s.dock.apply (.attachWindow tab w)).outbox) := by
        rw [← Command.errands_work]
        generalize Command.work (s.dock.apply (.attachWindow tab w)).outbox = cmds at hcourse ⊢
        cases hcourse with
        | attach hst' =>
            rw [hst] at hst'
            cases hst'
            exact .rest rfl (h.take ⟨m, hkeeps'.congr rfl rfl rfl⟩ rfl rfl rfl hst)
        | refuse hrefused => exact absurd hst (hrefused none entry)
        | rest hop | raise hop | enter hop | move hop | float hop => cases hop
      exact hdue.process

/-- When all reports have been read, the tally is exact. -/
theorem Due.settle (h : Due refused strays s b []) :
    ∃ b', s.settle.2.inbox = [] ∧ Tally refused strays s.settle.2 b' none none := by
  fun_induction Shell.settle s generalizing b with
  | case1 s hinbox =>
      cases h with
      | rest hempty h => exact ⟨b, hempty, h⟩
      | report hone => rw [hone] at hinbox; cases hinbox
  | case2 s tab window rest hinbox =>
      rename_i ih
      obtain ⟨b', h'⟩ := h.report_due hinbox
      exact ih h'

end Due

end Shell

end Docking
