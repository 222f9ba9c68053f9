import Docking.Proofs.Shell.Errands
import Docking.Proofs.Shell.Lasting

/-!
# The windows of a shell

Whatever a shell is called to do, afterwards the windows that are open at the host are those of the
floating tabs, one for each. A tab floats without a window only if the host refused it one, and the
host fails to do what it is asked for only if somebody drops a window on the dock that is not open.

## Main definitions

* `Shell.strays`: the windows that were dropped while they were not open.
* `Shell.InLine`: what holds of the windows between calls.

## Main results

* `lasting_settled`: messages and new tabs keep the shell settled.
* `calls_inLine`: windows and tabs are in line after any sequence of calls.
-/

namespace Docking

namespace Message

/-- Whether a message reports a window, which is up to the host. -/
def isReport : Message → Bool
  | windowOpened .. => true
  | _ => false

/-- The window that is dropped on the dock, if its payload says so. -/
def dropped? : Message → Option Window
  | drop mime data _ =>
    if mime = Payload.mime then (Payload.ofText? data).bind Payload.window else none
  | _ => none

end Message

/-- Whether a call reports a window. -/
def Call.isReport : Call → Bool
  | dispatch m => m.isReport
  | _ => false

namespace Shell

/-! ## Windows that are not open -/

section Strays

variable (s : Shell (Refusing Headless))

/-- The window that a message drops on the dock, if it is not open now. -/
def dispatchStrays (m : Message) : List Window := m.dropped?.toList.filter (· ∉ s.windows)

/-- The windows that the steps of a script drop while they are not open. -/
def scriptStrays : List Step → Shell (Refusing Headless) → List Window
  | [], _ => []
  | step :: rest, s =>
    (match s.stepMessage? step with
      | some (.ok m) => s.dispatchStrays m
      | _ => []) ++
    match s.runStep step with
    | .ok s => scriptStrays rest s
    | .error _ => []

/-- The windows that a call drops while they are not open. -/
def callStrays : Call → List Window
  | .dispatch m => s.dispatchStrays m
  | .runScript steps => scriptStrays steps s
  | _ => []

/-- The windows that several calls drop while they are not open. -/
def strays : List Call → Shell (Refusing Headless) → List Window
  | [], _ => []
  | c :: cs, s => s.callStrays c ++ strays cs (s.call c)

end Strays

/-! ## Settled shells -/

/-- Nothing is left to be done, and the tally of windows is exact. -/
def Settled (refused : List String) (strays : List Window) (s : Shell (Refusing Headless)) : Prop :=
  s.inbox = [] ∧ ∃ b, Tally refused strays s b none none

section Settled

variable {refused : List String} {strays : List Window} {s s' : Shell (Refusing Headless)}
  {b : Book} {commands : List Command}

theorem settled_new (settings : Settings) (registry : Registry) :
    Settled refused strays (new settings ⟨.new, refused⟩ registry) where
  left := rfl
  right := ⟨.empty,
    { keeps := ⟨_, Dock.keeps_new _⟩
      idle := rfl
      refuses := rfl
      nodup := .nil
      numbered := fun w hw => by cases hw
      isOpen := by
        intro w
        constructor
        · exact fun hw => by cases hw
        · rintro (⟨tab, htab⟩ | hspare)
          · cases htab
          · cases hspare
      unheld := fun hspare => by cases hspare
      single := fun hi => by cases hi
      windowless := fun hst => by cases hst
      errors := fun e he => by cases he }⟩

/-- Settings and content do not matter. -/
theorem Settled.congr (h : Settled refused strays s) (hdock : s'.dock = s.dock)
    (hhost : s'.host = s.host) (hinbox : s'.inbox = s.inbox)
    (herrors : s'.hostErrors = s.hostErrors) : Settled refused strays s' := by
  obtain ⟨hempty, b, h⟩ := h
  refine ⟨hinbox.trans hempty, b, h.congr ?_ ?_ hhost herrors fun _ _ _ => Iff.rfl⟩
  · rw [hdock]
    exact h.keeps
  · rw [hdock]
    exact h.idle

/-- Carrying out some commands and reading all reports settles a shell. -/
theorem Due.settled (h : Due refused strays s b (Command.errands commands)) :
    Settled refused strays (s.process (Command.batch? commands)).settle.2 := by
  obtain ⟨b', h'⟩ := h.process
  obtain ⟨b'', hinbox, h''⟩ := h'.settle
  exact ⟨hinbox, b'', h''⟩

/-- An operation of the dock with all that follows from it. -/
theorem Settled.operate (h : Settled refused strays s) (op : Operation) (content : Registry)
    (hreported : op.reported? = none) (hhanded : ∀ b : Book, b.handedBack? op = none)
    (hstray : ∀ w, op.named? = some w → w ∉ s.windows → w ∈ strays) :
    Settled refused strays ({ s with
      dock := { s.dock.apply op with outbox := [] }
      content }.process (Command.batch? (s.dock.apply op).outbox)).settle.2 := by
  obtain ⟨hinbox, b, h⟩ := h
  obtain ⟨l, hkeeps⟩ := h.keeps
  obtain ⟨m, b', hkeeps', hcourse⟩ := Dock.apply_course hkeeps op
  refine Due.settled (b := b') ?_
  rw [← Command.errands_work, outbox_eq_queued h.idle]
  exact h.due ⟨m, hkeeps'.congr rfl rfl rfl⟩ rfl rfl hinbox rfl hcourse hreported (hhanded b) hstray

/-! ### Messages -/

/-- A message is an operation of the dock, which is given no content, or asks for a new tab. -/
theorem receive_cases (m : Message) :
    (∃ op : Operation, (∀ d : Dock, d.receive m = d.apply op) ∧ op.content? = none ∧
      (∀ b : Book, b.handedBack? op = none) ∧
      (m.isReport = false → op.reported? = none ∧ op.named? = m.dropped?)) ∨
      ∃ plugin, m = .openPlugin plugin := by
  cases m with
  | close tab =>
      exact .inl ⟨.closeTab tab, fun _ => rfl, rfl, fun _ => rfl, fun _ => ⟨rfl, rfl⟩⟩
  | activate tab =>
      exact .inl ⟨.activateTab tab, fun _ => rfl, rfl, fun _ => rfl, fun _ => ⟨rfl, rfl⟩⟩
  | float tab =>
      exact .inl ⟨.floatTab tab, fun _ => rfl, rfl, fun _ => rfl, fun _ => ⟨rfl, rfl⟩⟩
  | move tab target =>
      exact .inl ⟨.moveTab tab target, fun _ => rfl, rfl, fun _ => rfl, fun _ => ⟨rfl, rfl⟩⟩
  | nextTab =>
      exact .inl ⟨.cycleTab true, fun _ => rfl, rfl, fun _ => rfl, fun _ => ⟨rfl, rfl⟩⟩
  | previousTab =>
      exact .inl ⟨.cycleTab false, fun _ => rfl, rfl, fun _ => rfl, fun _ => ⟨rfl, rfl⟩⟩
  | resize area =>
      exact .inl ⟨.setViewport area, fun _ => rfl, rfl, fun _ => rfl, fun _ => ⟨rfl, rfl⟩⟩
  | pointerDown tab point =>
      exact .inl ⟨.pointerDown tab point, fun _ => rfl, rfl, fun _ => rfl, fun _ => ⟨rfl, rfl⟩⟩
  | pointerMove point =>
      exact .inl ⟨.pointerMove point, fun _ => rfl, rfl, fun _ => rfl, fun _ => ⟨rfl, rfl⟩⟩
  | pointerUp =>
      exact .inl ⟨.pointerUp, fun _ => rfl, rfl, fun _ => rfl, fun _ => ⟨rfl, rfl⟩⟩
  | pointerCancel =>
      exact .inl ⟨.cancelDrag, fun _ => rfl, rfl, fun _ => rfl, fun _ => ⟨rfl, rfl⟩⟩
  | dragOver point =>
      exact .inl ⟨.externalOver point, fun _ => rfl, rfl, fun _ => rfl, fun _ => ⟨rfl, rfl⟩⟩
  | dragLeave =>
      exact .inl ⟨.externalLeave, fun _ => rfl, rfl, fun _ => rfl, fun _ => ⟨rfl, rfl⟩⟩
  | windowOpened tab window =>
      exact .inl ⟨.attachWindow tab window, fun _ => rfl, rfl, fun _ => rfl, nofun⟩
  | openPlugin plugin => exact .inr ⟨plugin, rfl⟩
  | drop mime data point =>
      left
      simp only [Dock.receive, Message.dropped?]
      split
      · cases hdata : Payload.ofText? data with
        | none => exact ⟨.externalLeave, fun _ => rfl, rfl, fun _ => rfl, fun _ => ⟨rfl, rfl⟩⟩
        | some payload =>
            exact ⟨.externalDrop payload point, fun _ => rfl, rfl, fun _ => rfl,
              fun _ => ⟨rfl, rfl⟩⟩
      · exact ⟨.externalLeave, fun _ => rfl, rfl, fun _ => rfl, fun _ => ⟨rfl, rfl⟩⟩

theorem Settled.dispatch (h : Settled refused strays s) (m : Message) (hm : m.isReport = false)
    (hstray : ∀ w ∈ s.dispatchStrays m, w ∈ strays) :
    Settled refused strays (s.dispatch m).2 := by
  rcases receive_cases m with ⟨op, hreceive, -, hhanded, hop⟩ | ⟨plugin, rfl⟩
  · obtain ⟨hreported, hnamed⟩ := hop hm
    have hsettled := h.operate op s.content hreported hhanded fun w hw hopen =>
      hstray w (List.mem_filter.2 ⟨Option.mem_toList.2 (hnamed ▸ hw), by simpa using hopen⟩)
    rw [← hreceive] at hsettled
    exact hsettled
  · obtain ⟨hinbox, b, h⟩ := h
    obtain ⟨l, hkeeps⟩ := h.keeps
    have hdue : Due refused strays
        { s with dock := { s.dock.receive (.openPlugin plugin) with outbox := [] } } b
        (Command.errands (s.dock.receive (.openPlugin plugin)).outbox) := by
      have hqueue : (s.dock.receive (.openPlugin plugin)).outbox = [.instantiate plugin none] := by
        simp [Dock.receive, Dock.emit, h.idle]
      rw [hqueue]
      exact .instantiate (.rest hinbox
        (h.congr ⟨l, hkeeps.congr rfl rfl rfl⟩ rfl rfl rfl fun _ _ _ => Iff.rfl))
    exact hdue.settled

theorem Settled.openPlugin (h : Settled refused strays s) (plugin : String) (activate : Bool) :
    Settled refused strays (s.openPlugin plugin activate).2 := by
  rw [Shell.openPlugin_eq]
  split
  · exact h
  · next title surface content _ =>
    exact h.operate (.openTab title surface activate) content rfl (fun _ => rfl) nofun

/-! ### Scripts -/

/-- No step of a script reports a window. -/
theorem stepMessage?_isReport {step : Step} {m : Message}
    (hm : s.stepMessage? step = some (.ok m)) : m.isReport = false := by
  cases step with
  | press tab point | close tab | activate tab | float tab =>
      simp only [stepMessage?] at hm
      cases htab : s.findTab tab with
      | error e => rw [htab] at hm; cases hm
      | ok t => rw [htab] at hm; cases hm; rfl
  | openPlugin | toggle => cases hm
  | _ => cases hm; rfl

/-! ### Calls -/

/-- A message does not report a window, and it drops no window that is not open but `strays`. -/
def Harmless (strays : List Window) (s : Shell (Refusing Headless)) (m : Message) : Prop :=
  m.isReport = false ∧ ∀ w ∈ s.dispatchStrays m, w ∈ strays

theorem steady_settled : Steady (Harmless strays) (Settled refused strays) where
  close := fun _ => ⟨rfl, nofun⟩
  resize := fun _ => ⟨rfl, nofun⟩
  dispatch := fun {_ m} hm h => h.dispatch m hm.1 hm.2
  openPlugin := fun plugin activate h => h.openPlugin plugin activate

/-- Harmless messages keep a shell settled. -/
theorem lasting_settled : Lasting (Harmless strays) (Settled refused strays) :=
  steady_settled.lasting fun _ _ _ h => h.congr rfl rfl rfl rfl

/-- A script that drops no other windows than `strays` is made of harmless messages. -/
theorem allowsSteps_of_strays (steps : List Step) (s : Shell (Refusing Headless))
    (hstray : ∀ w ∈ scriptStrays steps s, w ∈ strays) :
    AllowsSteps (Harmless strays) steps s := by
  induction steps generalizing s with
  | nil => trivial
  | cons step rest ih =>
      unfold scriptStrays at hstray
      constructor
      · intro m hm
        refine ⟨stepMessage?_isReport hm, fun w hw => hstray w (List.mem_append_left _ ?_)⟩
        rw [hm]
        exact hw
      · intro s' hrun
        refine ih s' fun w hw => hstray w (List.mem_append_right _ ?_)
        rw [hrun]
        exact hw

/-- Calls keep a shell settled. -/
theorem Settled.calls (h : Settled refused strays s) (cs : List Call)
    (hcs : ∀ c ∈ cs, c.isReport = false) (hstray : ∀ w ∈ Shell.strays cs s, w ∈ strays) :
    Settled refused strays (s.calls cs) := by
  induction cs generalizing s with
  | nil => exact h
  | cons c cs ih =>
      have hfirst : AllowsCall (Harmless strays) s c := by
        have hc := hcs c (List.mem_cons_self ..)
        have hstray : ∀ w ∈ s.callStrays c, w ∈ strays := fun w hw =>
          hstray w (List.mem_append_left _ hw)
        cases c with
        | dispatch m => exact ⟨hc, hstray⟩
        | runScript steps => exact allowsSteps_of_strays steps s hstray
        | _ => trivial
      exact ih (lasting_settled.call h c hfirst) (fun c' hc' => hcs c' (List.mem_cons_of_mem _ hc'))
        fun w hw => hstray w (List.mem_append_right _ hw)

/-- The windows at the host and the floating tabs are in line. -/
structure InLine (refused : List String) (strays : List Window) (s : Shell (Refusing Headless)) :
    Prop where
  /-- No window is open twice. -/
  nodup : s.windows.Nodup
  /-- The open windows are those that the tabs have. -/
  isOpen : ∀ w, w ∈ s.windows ↔ ∃ tab, s.dock.windowOf? tab = some w
  /-- No two tabs have the same window. -/
  single : ∀ w i j, s.dock.windowOf? i = some w → s.dock.windowOf? j = some w → i = j
  /-- A tab floats without a window only if the host refused it. -/
  windowless : ∀ tab item surface, s.dock.item? tab = some item →
    item.placement = .floating none surface →
      item.plugin ∈ refused ∧ .createFailed item.plugin "refused" ∈ s.hostErrors
  /-- The host refused a window, or a window was dropped that was not open. -/
  errors : ∀ e ∈ s.hostErrors, Explained refused strays e

theorem Settled.inLine (h : Settled refused strays s) : InLine refused strays s := by
  obtain ⟨-, b, h⟩ := h
  obtain ⟨l, hkeeps⟩ := h.keeps
  have hwindow := hkeeps.windowOf?_eq
  refine
    { nodup := h.nodup
      isOpen := ?_
      single := ?_
      windowless := ?_
      errors := h.errors }
  · intro w
    simp only [hwindow]
    exact h.isOpen.trans (or_iff_left (by simp))
  · intro w i j hi hj
    rw [hwindow] at hi hj
    exact h.single hi hj
  · intro tab item surface hitem hplacement
    obtain ⟨hst, hplugin⟩ := hkeeps.stays_of_floating hitem hplacement
    rw [hplugin]
    exact (h.windowless hst).resolve_left (by simp)

end Settled

/-- After any calls, as long as only the host reports windows, the open windows are those of the
floating tabs, one for each; a tab floats without a window only if the host refused it one; and
apart from refused windows the host failed only to close windows that were dropped while they were
not open. -/
theorem calls_inLine (settings : Settings) (registry : Registry) (refused : List String)
    (cs : List Call) (hcs : ∀ c ∈ cs, c.isReport = false) :
    InLine refused (strays cs (new settings ⟨.new, refused⟩ registry))
      ((new settings ⟨.new, refused⟩ registry).calls cs) :=
  ((settled_new settings registry).calls cs hcs fun _ hw => hw).inLine

/-- A shell with one plugin, which the host refuses windows. -/
def refusedNotes : Shell (Refusing Headless) :=
  new .standard ⟨.new, ["notes"]⟩ (.new [.named "notes"] ["notes"])

/-- Two tabs float, one of them without a window; a window that is not open is dropped, which makes
a third tab; then the first tab is closed, and the third one floats. -/
def busyDay : List Call := [
  .openPlugin Registry.managerName true,
  .openPlugin "notes" true,
  .dispatch (.float ⟨1⟩),
  .dispatch (.float ⟨2⟩),
  .dispatch (.drop Payload.mime (Payload.text ⟨Registry.managerName, some ⟨"window-7"⟩⟩) ⟨0, 0⟩),
  .runScript [.close (.id ⟨1⟩), .float (.id ⟨3⟩)]]

/-- In the end the second window is open, and the errors are those of the refused window and of the
window that was not open. -/
theorem busyDay_inLine : (∀ c ∈ busyDay, c.isReport = false) ∧
    strays busyDay refusedNotes = [⟨"window-7"⟩] ∧
    (refusedNotes.calls busyDay).windows = [⟨"window-2"⟩] ∧
    (refusedNotes.calls busyDay).hostErrors =
      [.createFailed "notes" "refused", .unknownWindow ⟨"window-7"⟩] ∧
    InLine ["notes"] [⟨"window-7"⟩] (refusedNotes.calls busyDay) := by
  have hcalls : ∀ c ∈ busyDay, c.isReport = false := by
    simp [busyDay, Call.isReport, Message.isReport]
  have hstrays : strays busyDay refusedNotes = [⟨"window-7"⟩] := by decide +kernel
  refine ⟨hcalls, hstrays, by decide +kernel, by decide +kernel, ?_⟩
  rw [← hstrays]
  exact calls_inLine .standard (.new [.named "notes"] ["notes"]) ["notes"] busyDay hcalls

end Shell

end Docking
