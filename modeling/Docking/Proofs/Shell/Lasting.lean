import Docking.Proofs.Shell.Stopping

/-!
# Calls, and what lasts

Whatever a shell is called to do is made of three things: a message is dispatched, a tab of a plugin
is opened, and a plugin is enabled or disabled. A property of shells that the first two keep is
steady; if the third one keeps it too, it is kept by all calls. Where it is kept by some messages
only, it lasts as long as no others are dispatched.

A property is steady if it is upheld on the way, by every single command that is carried out and by
every message before its commands are.

## Main definitions

* `Call`, `Shell.calls`: the calls of a shell, and the shell after several of them.
* `Shell.Upheld`: a property that is kept by every command and by what the dock does.
* `Shell.Steady`: a property that is kept by allowed messages and by new tabs.
* `Shell.Lasting`: a property that is kept by all else, too.
* `Shell.AllowsCall`: the messages of a call are allowed.

## Main results

* `Upheld.steady`: what is upheld is steady.
* `Lasting.call`, `Lasting.calls`: what lasts is kept by every call.
-/

namespace Docking

/-- A call of a shell. -/
inductive Call where
  | startup (area : Rect)
  | dispatch (m : Message)
  | openPlugin (plugin : String) (activate : Bool)
  | closePlugin (plugin : String)
  | togglePlugin (plugin : String)
  | runScript (steps : List Step)

namespace Shell

/-- The shell after a call. -/
def call {η : Type} [WindowHost η] (s : Shell η) : Call → Shell η
  | .startup area => s.startup area
  | .dispatch m => (s.dispatch m).2
  | .openPlugin plugin activate => (s.openPlugin plugin activate).2
  | .closePlugin plugin => (s.closePlugin plugin).2
  | .togglePlugin plugin => (s.togglePlugin plugin).2
  | .runScript steps => (s.runScript steps).2

/-- The shell after several calls. -/
def calls {η : Type} [WindowHost η] (s : Shell η) (cs : List Call) : Shell η := cs.foldl call s

/-- The shell with its mind changed about a plugin, before tabs are opened or closed. -/
def decided {η : Type} (s : Shell η) (plugin : String) (enabled : Bool) : Shell η :=
  { s with
    settings := (s.settings.toggle plugin).2
    content := s.content.setEnabled plugin enabled }

section Lasting

variable {η : Type} [WindowHost η]

/-- A property that is kept by the messages that are allowed and by new tabs. The messages that are
part of other calls have to be allowed. -/
structure Steady (allowed : Shell η → Message → Prop) (P : Shell η → Prop) : Prop where
  close : ∀ {s : Shell η} (tab : TabId), allowed s (.close tab)
  resize : ∀ {s : Shell η} (area : Rect), allowed s (.resize area)
  dispatch : ∀ {s : Shell η} {m : Message}, allowed s m → P s → P (s.dispatch m).2
  openPlugin : ∀ {s : Shell η} (plugin : String) (activate : Bool),
    P s → P (s.openPlugin plugin activate).2

/-- A steady property that is also kept when a plugin is enabled or disabled. -/
structure Lasting (allowed : Shell η → Message → Prop) (P : Shell η → Prop) : Prop
    extends Steady allowed P where
  toggle : ∀ {s : Shell η} (plugin : String), P s → P (s.togglePlugin plugin).2

/-- A property that is kept by every single thing that is done while a message is handled or a tab
is opened. -/
structure Upheld (P : Shell η → Prop) : Prop where
  /-- Reports and repaints do not matter. -/
  aside : ∀ {s : Shell η} (inbox : List (TabId × Window)) (redraws : Nat),
    P s → P { s with inbox, redraws }
  perform : ∀ {s : Shell η} (c : Command), P s → P (s.perform c).2
  handle : ∀ {s : Shell η} (m : Message), P s → P { s with dock := (s.dock.handle m).2 }
  openTab : ∀ {s : Shell η} {plugin title : String} {surface : Surface} {content : Registry}
    (activate : Bool), s.content.create plugin = some (title, surface, content) → P s →
      P { s with dock := (s.dock.openTab title surface activate).2.takeCommands.2, content }

/-- The messages of a script are allowed, each in the shell that it meets. -/
def AllowsSteps (allowed : Shell η → Message → Prop) : List Step → Shell η → Prop
  | [], _ => True
  | step :: rest, s => (∀ m, s.stepMessage? step = some (.ok m) → allowed s m) ∧
      ∀ s', s.runStep step = .ok s' → AllowsSteps allowed rest s'

/-- The messages of a call are allowed. -/
def AllowsCall (allowed : Shell η → Message → Prop) (s : Shell η) : Call → Prop
  | .dispatch m => allowed s m
  | .runScript steps => AllowsSteps allowed steps s
  | _ => True

namespace Upheld

variable {P : Shell η → Prop} {s : Shell η}

theorem carryOut (h : Upheld P) (agenda : List Command) (hs : P s) :
    P (Shell.carryOut agenda s) := by
  fun_induction Shell.carryOut agenda s with
  | case1 => exact hs
  | case2 c rest s ih => exact ih (h.perform c hs)

theorem process (h : Upheld P) (c : Option Command) (hs : P s) : P (s.process c) :=
  h.carryOut _ (h.aside s.inbox _ hs)

theorem react (h : Upheld P) (m : Message) (hs : P s) : P (s.react m).2 :=
  h.process _ (h.handle m hs)

theorem settle (h : Upheld P) (hs : P s) : P s.settle.2 := by
  fun_induction Shell.settle s with
  | case1 => exact hs
  | case2 s tab window rest hinbox =>
      rename_i ih
      exact ih (h.react _ (h.aside rest s.redraws hs))

/-- What is upheld is kept whatever is dispatched. -/
theorem steady (h : Upheld P) : Steady (fun _ _ => True) P where
  close := fun _ => trivial
  resize := fun _ => trivial
  dispatch := fun {_ m} _ hs => h.settle (h.react m hs)
  openPlugin := by
    intro s plugin activate hs
    rw [Shell.openPlugin_eq]
    split
    · exact hs
    · next hcreate => exact h.settle (h.process _ (h.openTab activate hcreate hs))

end Upheld

namespace Steady

variable {allowed : Shell η → Message → Prop} {P : Shell η → Prop} {s s' : Shell η}

theorem closePlugin (h : Steady allowed P) (hs : P s) (plugin : String) :
    P (s.closePlugin plugin).2 := by
  unfold Shell.closePlugin
  dsimp only
  generalize s.dock.tabsOf plugin = tabs
  induction tabs generalizing s with
  | nil => exact hs
  | cons tab tabs ih => exact ih (h.dispatch (h.close tab) hs)

theorem startup (h : Steady allowed P) (hs : P s) (area : Rect) : P (s.startup area) := by
  have hopen : ∀ (plugins : List String) {s : Shell η}, P s →
      P (plugins.foldl (fun s plugin => (s.openPlugin plugin false).2) s) := by
    intro plugins
    induction plugins with
    | nil => exact fun hs => hs
    | cons plugin plugins ih => exact fun hs => ih (h.openPlugin plugin false hs)
  have hresized := h.dispatch (h.resize area) hs
  unfold Shell.startup
  refine hopen _ ?_
  split
  · exact h.openPlugin Registry.managerName true hresized
  · exact hresized

/-- A plugin is enabled or disabled, and then a tab is opened or all its tabs are closed. -/
theorem togglePlugin (h : Steady allowed P) (plugin : String)
    (hset : P (s.decided plugin (s.settings.toggle plugin).1)) : P (s.togglePlugin plugin).2 := by
  unfold Shell.togglePlugin
  dsimp only
  split
  · exact h.openPlugin plugin false hset
  · exact h.closePlugin hset plugin

/-- A step of a script that toggles no plugin. -/
theorem runStep (h : Steady allowed P) (hs : P s) {step : Step}
    (hstep : ∀ m, s.stepMessage? step = some (.ok m) → allowed s m)
    (htoggle : ∀ plugin, step ≠ .toggle plugin) (hrun : s.runStep step = .ok s') : P s' := by
  rw [runStep_eq_ok_iff] at hrun
  unfold attempt at hrun
  split at hrun
  · next plugin activate =>
    have hopened := h.openPlugin plugin activate hs
    split at hrun
    · next heq =>
      rw [heq] at hopened
      cases hrun
      exact hopened
    · cases hrun
  · exact absurd rfl (htoggle _)
  · split at hrun
    · next m hm =>
      cases hrun
      exact h.dispatch (hstep m hm) hs
    · cases hrun
    · cases hrun
      exact hs

/-- Where it does not matter what is enabled, a steady property lasts. -/
theorem lasting (h : Steady allowed P)
    (henable : ∀ {s : Shell η} (settings : Settings) (plugin : String) (enabled : Bool),
      P s → P { s with settings, content := s.content.setEnabled plugin enabled }) :
    Lasting allowed P where
  toSteady := h
  toggle := fun plugin hs => h.togglePlugin plugin (henable _ _ _ hs)

end Steady

namespace Lasting

variable {allowed : Shell η → Message → Prop} {P : Shell η → Prop} {s s' : Shell η}

theorem runStep (h : Lasting allowed P) (hs : P s) {step : Step}
    (hstep : ∀ m, s.stepMessage? step = some (.ok m) → allowed s m)
    (hrun : s.runStep step = .ok s') : P s' := by
  by_cases htoggle : ∃ plugin, step = .toggle plugin
  · obtain ⟨plugin, rfl⟩ := htoggle
    cases hrun
    exact h.toggle plugin hs
  · exact h.toSteady.runStep hs hstep (fun plugin e => htoggle ⟨plugin, e⟩) hrun

theorem runFrom (h : Lasting allowed P) (hs : P s) (number : Nat) (steps : List Step)
    (hsteps : AllowsSteps allowed steps s) : P (Shell.runFrom number steps s).2 := by
  induction steps generalizing s number with
  | nil => exact hs
  | cons step rest ih =>
      obtain ⟨hstep, hrest⟩ := hsteps
      rw [runFrom_cons]
      cases hrun : s.runStep step with
      | error cause => exact hs
      | ok s' => exact ih (h.runStep hs hstep hrun) _ (hrest s' hrun)

/-- What lasts is kept by a call with allowed messages. -/
theorem call (h : Lasting allowed P) (hs : P s) (c : Call) (hc : AllowsCall allowed s c) :
    P (s.call c) := by
  cases c with
  | startup area => exact h.startup hs area
  | dispatch m => exact h.dispatch hc hs
  | openPlugin plugin activate => exact h.openPlugin plugin activate hs
  | closePlugin plugin => exact h.closePlugin hs plugin
  | togglePlugin plugin => exact h.toggle plugin hs
  | runScript steps => exact h.runFrom hs 1 steps hc

/-- What lasts whatever is dispatched is kept by all calls. -/
theorem calls (h : Lasting (fun _ _ => True) P) (hs : P s) (cs : List Call) : P (s.calls cs) := by
  have hsteps : ∀ (steps : List Step) (s : Shell η), AllowsSteps (fun _ _ => True) steps s := by
    intro steps
    induction steps with
    | nil => exact fun _ => trivial
    | cons step rest ih => exact fun s => ⟨fun _ _ => trivial, fun s' _ => ih s'⟩
  induction cs generalizing s with
  | nil => exact hs
  | cons c cs ih =>
      have hc : AllowsCall (fun _ _ => True) s c := by
        cases c with
        | runScript steps => exact hsteps steps s
        | _ => trivial
      exact ih (h.call hs c hc)

end Lasting

end Lasting

end Shell

end Docking
