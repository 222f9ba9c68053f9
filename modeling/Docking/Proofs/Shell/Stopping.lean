import Docking.Script.Run

/-!
# Scripts that stop

A step of a script fails in two cases only: it opens a plugin for which the registry makes no
surfaces now, or it names a tab by a title that no tab has now. Neither is found out after something
was done, so a step that fails leaves the shell as it is. A script runs to its end exactly if no
step lacks anything in the shell that it meets; otherwise it stops at the first step that does, in
the shell that the steps before have led to.

## Main definitions

* `Registry.Offers`: the registry makes surfaces for a plugin.
* `Shell.Lacks`: what a step needs is not there.
* `Shell.runStep`: the shell after a step that can be carried out.

## Main results

* `attempt_error_iff`, `attempt_error`: when a step fails, and that it has done nothing then.
* `runFrom_cons`: a script by its first step.
* `runScript_stops`: how far a script gets, and what it leaves behind.
-/

namespace Docking

/-! ## What a step needs -/

/-- The registry makes surfaces for a plugin: the plugin manager is built in, and any other plugin
must be enabled and have a manifest. -/
def Registry.Offers (r : Registry) (plugin : String) : Prop :=
  plugin = managerName ∨ plugin ∈ r.enabled ∧ ∃ m ∈ r.manifests, m.name = plugin

/-- The tab that a step is about, as the step names it. -/
def Step.tab? : Step → Option TabRef
  | .press tab _ | .close tab | .activate tab | .float tab => some tab
  | _ => none

namespace Registry

theorem title?_eq_none_iff {r : Registry} {plugin : String} :
    r.title? plugin = none ↔ ¬ r.Offers plugin := by
  have hmanifest : r.manifest? plugin = none ↔ ¬ ∃ m ∈ r.manifests, m.name = plugin := by
    simp [manifest?]
  unfold title? Offers
  split
  · next h => simp [h]
  · next h =>
    split
    · next henabled =>
      have henabled : plugin ∈ r.enabled := by simpa [isEnabled] using henabled
      simp only [Option.map_eq_none_iff, hmanifest, h, henabled, true_and, false_or]
    · next henabled =>
      have henabled : plugin ∉ r.enabled := by simpa [isEnabled] using henabled
      simp [h, henabled]

end Registry

namespace Shell

variable {η : Type}

/-- A step needs something that is not there: a plugin that the registry makes surfaces for, or a
tab of a title. -/
inductive Lacks (s : Shell η) : Step → StepError → Prop
  | plugin {plugin : String} {activate : Bool} (h : ¬ s.content.Offers plugin) :
      Lacks s (.openPlugin plugin activate) (.pluginNotAvailable plugin)
  | tab {step : Step} {title : String} (hname : step.tab? = some (.title title))
      (hnone : ∀ tab i, s.dock.item? tab = some i → i.title ≠ title) :
      Lacks s step (.noSuchTab title)

section Stopping

/-! ## One step -/

/-- A title is not found exactly if no tab has it. -/
theorem findTitle_eq_none_iff (d : Dock) (title : String) :
    d.findTitle title = none ↔ ∀ tab i, d.item? tab = some i → i.title ≠ title := by
  rw [Dock.findTitle, Option.map_eq_none_iff, List.find?_eq_none]
  constructor
  · intro h tab i hitem
    have hmem : i ∈ d.items.values :=
      List.mem_map.2 ⟨(tab, i), Table.get?_eq_some_iff.1 hitem, rfl⟩
    simpa using h i hmem
  · intro h i hi
    obtain ⟨⟨tab, j⟩, hmem, rfl⟩ := List.mem_map.1 hi
    simpa using h tab j (Table.get?_eq_some_iff.2 hmem)

theorem findTab_eq_error_iff {s : Shell η} {ref : TabRef} {cause : StepError} :
    s.findTab ref = .error cause ↔
      ∃ title, ref = .title title ∧ cause = .noSuchTab title ∧
        ∀ tab i, s.dock.item? tab = some i → i.title ≠ title := by
  cases ref with
  | id tab => simp [findTab]
  | title title =>
      cases hfind : s.dock.findTitle title with
      | none =>
          have hnone := (findTitle_eq_none_iff s.dock title).1 hfind
          simp only [findTab, hfind, Except.error.injEq, TabRef.title.injEq]
          constructor
          · rintro rfl
            exact ⟨title, rfl, rfl, hnone⟩
          · rintro ⟨_, rfl, rfl, -⟩
            rfl
      | some tab =>
          have hsome := mt (findTitle_eq_none_iff s.dock title).2 (by simp [hfind])
          simp only [findTab, hfind, TabRef.title.injEq]
          constructor
          · rintro ⟨⟩
          · rintro ⟨_, rfl, -, hnone⟩
            exact absurd hnone hsome

/-- A step amounts to no message because of what it names only if it names a tab that is not
there. -/
theorem stepMessage?_eq_error_iff {s : Shell η} {step : Step} {cause : StepError} :
    s.stepMessage? step = some (.error cause) ↔
      ∃ ref, step.tab? = some ref ∧ s.findTab ref = .error cause := by
  have hmap : ∀ (ref : TabRef) (f : TabId → Message),
      (s.findTab ref).map f = .error cause ↔ s.findTab ref = .error cause := by
    intro ref f
    cases s.findTab ref <;> simp [Except.map]
  cases step <;> simp [stepMessage?, Step.tab?, hmap]

variable {s s' : Shell η} {step : Step} {cause : StepError}

/-- A step lacks one thing at most. -/
theorem Lacks.unique {cause' : StepError} (h : s.Lacks step cause) (h' : s.Lacks step cause') :
    cause = cause' := by
  cases h with
  | plugin =>
      cases h' with
      | plugin => rfl
      | tab hname => cases hname
  | tab hname =>
      cases h' with
      | plugin => cases hname
      | tab hname' =>
          cases hname.symm.trans hname'
          rfl

variable [WindowHost η]

/-- A step that amounts to a message fails if it names a tab that is not there. -/
private theorem attempt_cases_of_message
    (hopen : ∀ plugin activate, step ≠ .openPlugin plugin activate)
    (hattempt : s.attempt step = match s.stepMessage? step with
      | some (.ok m) => (.ok (), (s.dispatch m).2)
      | some (.error e) => (.error e, s)
      | none => (.ok (), s)) :
    (∃ cause, s.Lacks step cause ∧ s.attempt step = (.error cause, s)) ∨
      (∀ cause, ¬ s.Lacks step cause) ∧ (s.attempt step).1 = .ok () := by
  have herror : ∀ cause, s.Lacks step cause ↔ s.stepMessage? step = some (.error cause) := by
    intro cause
    rw [stepMessage?_eq_error_iff]
    constructor
    · intro h
      cases h with
      | plugin => exact absurd rfl (hopen _ _)
      | tab hname hnone => exact ⟨_, hname, findTab_eq_error_iff.2 ⟨_, rfl, rfl, hnone⟩⟩
    · rintro ⟨ref, hname, hfind⟩
      obtain ⟨title, rfl, rfl, hnone⟩ := findTab_eq_error_iff.1 hfind
      exact .tab hname hnone
  have hnot : (∀ e, s.stepMessage? step ≠ some (.error e)) → ∀ cause, ¬ s.Lacks step cause :=
    fun hm cause h => hm cause ((herror cause).1 h)
  cases hm : s.stepMessage? step with
  | none =>
      rw [hm] at hattempt
      exact .inr ⟨hnot (by simp [hm]), by rw [hattempt]⟩
  | some outcome =>
      rw [hm] at hattempt
      cases outcome with
      | error e => exact .inl ⟨e, (herror e).2 hm, hattempt⟩
      | ok m => exact .inr ⟨hnot (by simp [hm]), by rw [hattempt]⟩

/-- A step that lacks something fails and does nothing. Any other step succeeds. -/
theorem attempt_cases (s : Shell η) (step : Step) :
    (∃ cause, s.Lacks step cause ∧ s.attempt step = (.error cause, s)) ∨
      (∀ cause, ¬ s.Lacks step cause) ∧ (s.attempt step).1 = .ok () := by
  cases step with
  | openPlugin plugin activate =>
      rw [attempt, openPlugin_eq, Registry.create]
      cases htitle : s.content.title? plugin with
      | none => exact .inl ⟨_, .plugin (Registry.title?_eq_none_iff.1 htitle), rfl⟩
      | some title =>
          refine .inr ⟨fun cause h => ?_, rfl⟩
          cases h with
          | plugin hoffers => cases htitle.symm.trans (Registry.title?_eq_none_iff.2 hoffers)
          | tab hname => cases hname
  | toggle plugin =>
      refine .inr ⟨fun cause h => ?_, rfl⟩
      cases h with
      | tab hname => cases hname
  | press | move | release | cancel | close | activate | float | nextTab | previousTab | resize
  | dragOver | dragLeave | externalDrop => exact attempt_cases_of_message (by simp) rfl

/-- A step fails exactly if it lacks something. -/
theorem attempt_error_iff : (s.attempt step).1 = .error cause ↔ s.Lacks step cause := by
  rcases attempt_cases s step with ⟨cause', hlacks, hattempt⟩ | ⟨hnot, hok⟩
  · rw [hattempt, Except.error.injEq]
    exact ⟨fun h => h ▸ hlacks, fun h => hlacks.unique h⟩
  · rw [hok]
    exact iff_of_false nofun (hnot cause)

/-- A step that fails leaves the shell as it is. -/
theorem attempt_error (h : (s.attempt step).1 = .error cause) :
    s.attempt step = (.error cause, s) := by
  rcases attempt_cases s step with ⟨cause', -, hattempt⟩ | ⟨-, hok⟩
  · rw [hattempt] at h ⊢
    rw [Except.error.inj h]
  · cases hok.symm.trans h

/-- The shell after a step that can be carried out. -/
def runStep (s : Shell η) (step : Step) : Except StepError (Shell η) :=
  (s.attempt step).1.map fun _ => (s.attempt step).2

theorem runStep_eq_ok_iff : s.runStep step = .ok s' ↔ s.attempt step = (.ok (), s') := by
  unfold runStep
  obtain ⟨outcome, left⟩ := s.attempt step
  cases outcome with
  | ok => simp [Except.map]
  | error cause => simp [Except.map]

/-! ## Several steps -/

/-- A script is carried out from its first step on, if that can be carried out. -/
theorem runFrom_cons (number : Nat) (step : Step) (rest : List Step) (s : Shell η) :
    runFrom number (step :: rest) s =
      match s.runStep step with
      | .ok s => runFrom (number + 1) rest s
      | .error cause => (.error ⟨number, step, cause⟩, s) := by
  rw [runFrom, runStep]
  cases hfirst : (s.attempt step).1 with
  | ok =>
      rw [show s.attempt step = (.ok (), (s.attempt step).2) from Prod.ext hfirst rfl]
      rfl
  | error cause =>
      rw [attempt_error hfirst]
      rfl

/-- Either all steps succeed, each in the shell that the ones before it lead to, or a step fails in
the shell that the ones before it have led to, and this shell is left. -/
private theorem runFrom_cases (number : Nat) (steps : List Step) (s : Shell η) :
    (runFrom number steps s).1 = .ok () ∧
        (∀ k step, steps[k]? = some step →
          ((runFrom number (steps.take k) s).2.attempt step).1 = .ok ()) ∨
      ∃ k step cause t, steps[k]? = some step ∧
        runFrom number steps s = (.error ⟨number + k, step, cause⟩, t) ∧
        runFrom number (steps.take k) s = (.ok (), t) ∧ t.Lacks step cause := by
  induction steps generalizing number s with
  | nil => exact .inl ⟨rfl, nofun⟩
  | cons step rest ih =>
      rcases attempt_cases s step with ⟨cause, hlacks, hattempt⟩ | ⟨-, hok⟩
      · refine .inr ⟨0, step, cause, s, rfl, ?_, rfl, hlacks⟩
        rw [runFrom, hattempt]
        rfl
      · have hattempt : s.attempt step = (.ok (), (s.attempt step).2) := Prod.ext hok rfl
        have hfirst : ∀ more, runFrom number (step :: more) s =
            runFrom (number + 1) more (s.attempt step).2 := by
          intro more
          rw [runFrom, hattempt]
        rcases ih (number + 1) (s.attempt step).2 with
          ⟨hall, hsteps⟩ | ⟨k, failed, cause, t, hk, hrun, hbefore, hlacks⟩
        · refine .inl ⟨by rw [hfirst, hall], fun k next hk => ?_⟩
          cases k with
          | zero =>
              cases hk
              exact hok
          | succ k =>
              rw [List.take_succ_cons, hfirst]
              exact hsteps k next hk
        · refine .inr ⟨k + 1, failed, cause, t, hk, ?_, ?_, hlacks⟩
          · rw [hfirst, hrun, Nat.add_right_comm, Nat.add_assoc]
          · rw [List.take_succ_cons, hfirst, hbefore]

/-- A step fails exactly if it opens a plugin that the registry makes no surfaces for, or names a
tab by a title that no tab has. A script runs to its end exactly if every step in turn succeeds. If
it does not, the error names the step that failed, and the shell is the one that the steps before it
lead to on their own. -/
theorem runScript_stops (s : Shell η) (steps : List Step) :
    (∀ (t : Shell η) step cause, (t.attempt step).1 = .error cause ↔ t.Lacks step cause) ∧
      ((s.runScript steps).1 = .ok () ↔ ∀ k step, steps[k]? = some step →
        ((s.runScript (steps.take k)).2.attempt step).1 = .ok ()) ∧
      ∀ e, (s.runScript steps).1 = .error e → ∃ k, steps[k]? = some e.step ∧
        e.number = k + 1 ∧ e.context = s!"step {k + 1} ({e.step.text})" ∧
        s.runScript (steps.take k) = (.ok (), (s.runScript steps).2) ∧
        (s.runScript steps).2.Lacks e.step e.cause := by
  refine ⟨fun t step cause => attempt_error_iff, ?_, ?_⟩
  · rcases runFrom_cases 1 steps s with
      ⟨hok, hsteps⟩ | ⟨k, step, cause, t, hk, hrun, hbefore, hlacks⟩
    · exact iff_of_true hok hsteps
    · refine iff_of_false ?_ fun hsteps => ?_
      · rw [runScript, hrun]
        nofun
      · have hstep := hsteps k step hk
        rw [runScript, hbefore, attempt_error_iff.2 hlacks] at hstep
        cases hstep
  · intro e he
    rcases runFrom_cases 1 steps s with
      ⟨hok, -⟩ | ⟨k, step, cause, t, hk, hrun, hbefore, hlacks⟩
    · cases hok.symm.trans he
    · rw [runScript, hrun] at he
      obtain rfl := Except.error.inj he
      unfold runScript
      rw [hrun]
      exact ⟨k, hk, Nat.add_comm 1 k, by rw [ScriptError.context, Nat.add_comm], hbefore, hlacks⟩

/-- The second of three steps closes a tab of a title that no tab has: the first step has opened the
plugin manager by then, and the third one would close it. -/
theorem missingTab_stops :
    let s := new Settings.standard Headless.new (.new [] [])
    let opened : Step := .openPlugin Registry.managerName true
    let missing : Step := .close (.title "Notes")
    let stopped := s.runScript [opened, missing, .close (.id ⟨1⟩)]
    ∃ e, stopped.1 = .error e ∧
      e.message = "step 2 (Close \x7b tab: Title(\"Notes\") \x7d): no tab titled 'Notes'" ∧
      s.runScript [opened] = (.ok (), stopped.2) ∧ stopped.2.Lacks missing (.noSuchTab "Notes") ∧
      stopped.2.dock.findTitle Registry.managerTitle = some ⟨1⟩ := by
  intro s opened missing stopped
  have hopen : stopped.2.dock.findTitle Registry.managerTitle = some ⟨1⟩ := by decide +kernel
  have houtcome : (match stopped.1 with
      | .ok () => none
      | .error e => some (e.number, e.step, e.cause)) =
        some (2, missing, .noSuchTab "Notes") := by
    decide +kernel
  obtain ⟨-, -, hstops⟩ := runScript_stops s [opened, missing, .close (.id ⟨1⟩)]
  cases hrun : stopped.1 with
  | ok =>
      rw [hrun] at houtcome
      cases houtcome
  | error e =>
      rw [hrun, Option.some_inj] at houtcome
      obtain ⟨k, -, hnumber, -, hbefore, hlacks⟩ := hstops e hrun
      obtain ⟨number, step, cause⟩ := e
      obtain ⟨rfl, rfl, rfl⟩ : number = 2 ∧ step = .close (.title "Notes") ∧
          cause = .noSuchTab "Notes" := by
        simpa [missing] using houtcome
      obtain rfl : 1 = k := Nat.succ.inj hnumber
      exact ⟨_, rfl, by decide +kernel, hbefore, hlacks, hopen⟩

end Stopping

end Shell

end Docking
