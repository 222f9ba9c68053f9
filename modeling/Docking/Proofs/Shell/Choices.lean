import Docking.Proofs.Shell.Answers
import Docking.Proofs.Shell.Lasting
import Docking.Settings.Reading
import Mathlib.Data.List.Count
import Mathlib.Logic.Function.Iterate

/-!
# What is enabled

Whether a plugin is enabled is written down twice: the settings keep a list, which may come from a
file and name a plugin more than once, and the registry keeps a set. Nothing but a toggle changes
either of them. A toggle takes the plugin off the list once, or puts it on if it was not there, and
tells the registry which of the two it did. So a plugin that is listed once at most is flipped, and
the two agree; a plugin that is listed more often is disabled in the registry at once and in the
settings only by as many toggles as it has entries.

## Main definitions

* `Shell.SameChoices`: settings and what is enabled are the same.
* `Shell.standing`: how often a plugin is listed, and whether it is enabled in the registry.
* `Shell.toggles`: how often several calls toggle a plugin.

## Main results

* `steady_choices`: messages and new tabs leave the choices as they are.
* `calls_standing`: the standing of a plugin after several calls.
* `calls_agree_iff`: when settings and registry agree.
-/

namespace Docking

namespace Registry

theorem isEnabled_iff {r : Registry} {name : String} : r.isEnabled name ↔ name ∈ r.enabled := by
  rw [isEnabled, List.contains_iff_mem]

theorem isEnabled_setEnabled (r : Registry) (name other : String) (enabled : Bool) :
    (r.setEnabled name enabled).isEnabled other =
      if name = other then enabled else r.isEnabled other := by
  rw [Bool.eq_iff_iff, isEnabled_iff, setEnabled]
  cases enabled with
  | false =>
      by_cases h : name = other
      · simp [h]
      · simp [h, Ne.symm h, isEnabled_iff]
  | true =>
      by_cases h : name = other
      · by_cases hmem : r.isEnabled other
        · simp [h, hmem, isEnabled_iff.1 hmem]
        · simp [h, hmem]
      · by_cases hmem : r.isEnabled name
        · simp [h, hmem, isEnabled_iff]
        · simp [h, Ne.symm h, hmem, isEnabled_iff]

theorem enabled_create {r r' : Registry} {plugin title : String} {surface : Surface}
    (h : r.create plugin = some (title, surface, r')) : r'.enabled = r.enabled := by
  obtain ⟨_, -, heq⟩ := Option.map_eq_some_iff.1 h
  cases heq
  rfl

end Registry

namespace Settings

theorem isEnabled_eq (s : Settings) (plugin : String) :
    s.isEnabled plugin = decide (0 < s.enabledPlugins.count plugin) := by
  rw [Bool.eq_iff_iff, decide_eq_true_iff, List.count_pos_iff, isEnabled, List.contains_iff_mem]

/-- A toggle takes a plugin off the list once, or puts it on. -/
theorem count_toggle (s : Settings) (plugin other : String) :
    (s.toggle plugin).2.enabledPlugins.count other =
      if plugin = other then
        if s.enabledPlugins.count other = 0 then 1 else s.enabledPlugins.count other - 1
      else s.enabledPlugins.count other := by
  have hlisted : s.isEnabled plugin ↔ s.enabledPlugins.count plugin ≠ 0 := by
    rw [isEnabled_eq, decide_eq_true_iff, Nat.pos_iff_ne_zero]
  rw [toggle]
  by_cases h : plugin = other
  · subst h
    rw [if_pos rfl]
    split
    · next hlist =>
      rw [if_neg (hlisted.1 hlist)]
      exact List.count_erase_self
    · next hlist =>
      have hnone : s.enabledPlugins.count plugin = 0 := by
        simpa using mt hlisted.2 hlist
      rw [if_pos hnone]
      simp [List.count_append, hnone]
  · rw [if_neg h]
    split
    · exact List.count_erase_of_ne (Ne.symm h)
    · simp [List.count_append, h]

theorem toggle_fst (s : Settings) (plugin : String) :
    (s.toggle plugin).1 = !s.isEnabled plugin := by
  rw [toggle]
  cases s.isEnabled plugin <;> rfl

end Settings

namespace Shell

variable {η : Type}

/-- The settings and what is enabled are the same. -/
structure SameChoices (s s' : Shell η) : Prop where
  settings : s'.settings = s.settings
  enabled : s'.content.enabled = s.content.enabled

section SameChoices

variable {s s' s'' : Shell η}

theorem SameChoices.refl (s : Shell η) : s.SameChoices s := ⟨rfl, rfl⟩

theorem SameChoices.trans (h : s.SameChoices s') (k : s'.SameChoices s'') : s.SameChoices s'' :=
  ⟨k.settings.trans h.settings, k.enabled.trans h.enabled⟩

theorem sameChoices_instantiate (s : Shell η) (plugin : String) (target : Option DropTarget) :
    s.SameChoices (s.instantiate plugin target).2 := by
  rw [Shell.instantiate_eq]
  split
  · exact .refl s
  · next hcreate => exact ⟨rfl, Registry.enabled_create hcreate⟩

variable [WindowHost η]

theorem sameChoices_perform (s : Shell η) (c : Command) : s.SameChoices (s.perform c).2 := by
  have hanswer (answer : Except HostError Unit × η) : s.SameChoices (s.recordAnswer answer) := by
    rw [recordAnswer_same]
    exact ⟨rfl, rfl⟩
  cases c with
  | nothing | redraw | batch cs => exact .refl s
  | mount surface panel => exact ⟨rfl, rfl⟩
  | unmount surface => exact ⟨rfl, rfl⟩
  | destroy surface => exact ⟨rfl, rfl⟩
  | detachWindow tab plugin =>
      show s.SameChoices (s.openWindow tab plugin)
      rw [openWindow_same]
      exact ⟨rfl, rfl⟩
  | closeWindow window => exact hanswer _
  | raiseWindow window => exact hanswer _
  | instantiate plugin target => exact sameChoices_instantiate s plugin target

/-- Nothing that the shell does on its own changes the choices. -/
theorem upheld_choices (s : Shell η) : Upheld s.SameChoices where
  aside := fun _ _ h => ⟨h.settings, h.enabled⟩
  perform := fun c h => h.trans (sameChoices_perform _ c)
  handle := fun _ h => ⟨h.settings, h.enabled⟩
  openTab := fun _ hcreate h => ⟨h.settings, (Registry.enabled_create hcreate).trans h.enabled⟩

/-- Messages and new tabs leave the choices as they are. -/
theorem steady_choices (s : Shell η) : Steady (fun _ _ => True) s.SameChoices :=
  (upheld_choices s).steady

end SameChoices

/-! ## Toggles -/

/-- How often the settings list a plugin, and whether it is enabled in the registry. -/
def standing (s : Shell η) (plugin : String) : Nat × Bool :=
  (s.settings.enabledPlugins.count plugin, s.content.isEnabled plugin)

theorem SameChoices.standing_eq {s s' : Shell η} (h : s.SameChoices s') (plugin : String) :
    s'.standing plugin = s.standing plugin := by
  rw [standing, standing, h.settings, Registry.isEnabled, Registry.isEnabled, h.enabled]

/-- What a toggle makes of the standing of a plugin. -/
def flip : Nat × Bool → Nat × Bool
  | (0, _) => (1, true)
  | (listed + 1, _) => (listed, false)

/-- A toggle changes whether a plugin is listed, unless the list names it more than once. -/
theorem flip_listed (standing : Nat × Bool) :
    decide (0 < (flip standing).1) = !decide (0 < standing.1) ↔ standing.1 ≤ 1 := by
  obtain ⟨_ | listed, enabled⟩ := standing
  · exact iff_of_true rfl (Nat.zero_le 1)
  · show decide (0 < listed) = !decide (0 < listed + 1) ↔ listed + 1 ≤ 1
    rw [decide_eq_true (Nat.succ_pos listed), Bool.not_true, decide_eq_false_iff_not]
    omega

/-- How often a step toggles a plugin. -/
def stepToggles (plugin : String) : Step → Nat
  | .toggle p => if p = plugin then 1 else 0
  | _ => 0

section Toggles

variable [WindowHost η]

/-- How often the steps of a script toggle a plugin. Steps behind one that fails do not count. -/
def scriptToggles (plugin : String) : List Step → Shell η → Nat
  | [], _ => 0
  | step :: rest, s =>
    match s.runStep step with
    | .ok s => scriptToggles plugin rest s + stepToggles plugin step
    | .error _ => 0

/-- How often a call toggles a plugin. -/
def callToggles (plugin : String) (s : Shell η) : Call → Nat
  | .togglePlugin p => if p = plugin then 1 else 0
  | .runScript steps => scriptToggles plugin steps s
  | _ => 0

/-- How often several calls toggle a plugin. -/
def toggles (plugin : String) : List Call → Shell η → Nat
  | [], _ => 0
  | c :: cs, s => toggles plugin cs (s.call c) + callToggles plugin s c

variable {s s' : Shell η} {plugin : String}

/-- A toggle flips the plugin and leaves all others as they are. -/
theorem togglePlugin_standing (s : Shell η) (p plugin : String) :
    (s.togglePlugin p).2.standing plugin =
      flip^[if p = plugin then 1 else 0] (s.standing plugin) := by
  have hset := (steady_choices _).togglePlugin (s := s) p (.refl _)
  rw [hset.standing_eq]
  show ((s.settings.toggle p).2.enabledPlugins.count plugin,
    (s.content.setEnabled p (s.settings.toggle p).1).isEnabled plugin) = _
  rw [Settings.count_toggle, Registry.isEnabled_setEnabled, Settings.toggle_fst,
    Settings.isEnabled_eq]
  by_cases h : p = plugin
  · subst h
    simp only [if_pos]
    show _ = flip (s.settings.enabledPlugins.count p, _)
    cases s.settings.enabledPlugins.count p <;> rfl
  · simp only [if_neg h]
    rfl

theorem runStep_standing {step : Step} (hrun : s.runStep step = .ok s') (plugin : String) :
    s'.standing plugin = flip^[stepToggles plugin step] (s.standing plugin) := by
  by_cases htoggle : ∃ p, step = .toggle p
  · obtain ⟨p, rfl⟩ := htoggle
    cases hrun
    exact togglePlugin_standing s p plugin
  · have hnone : stepToggles plugin step = 0 := by
      cases step with
      | toggle p => exact absurd ⟨p, rfl⟩ htoggle
      | _ => rfl
    have hsame := (steady_choices s).runStep (.refl s) (fun _ _ => trivial)
      (fun p e => htoggle ⟨p, e⟩) hrun
    rw [hnone]
    exact hsame.standing_eq plugin

theorem runFrom_standing (number : Nat) (steps : List Step) (s : Shell η) (plugin : String) :
    (runFrom number steps s).2.standing plugin =
      flip^[scriptToggles plugin steps s] (s.standing plugin) := by
  induction steps generalizing s number with
  | nil => rfl
  | cons step rest ih =>
      rw [runFrom_cons, scriptToggles]
      cases hrun : s.runStep step with
      | error cause => rfl
      | ok s' =>
          rw [Function.iterate_add_apply, ← runStep_standing hrun]
          exact ih (number + 1) s'

theorem call_standing (s : Shell η) (c : Call) (plugin : String) :
    (s.call c).standing plugin = flip^[callToggles plugin s c] (s.standing plugin) := by
  have hsteady := steady_choices s
  cases c with
  | startup area => exact (hsteady.startup (.refl s) area).standing_eq plugin
  | dispatch m => exact (hsteady.dispatch (m := m) trivial (.refl s)).standing_eq plugin
  | openPlugin p activate => exact (hsteady.openPlugin p activate (.refl s)).standing_eq plugin
  | closePlugin p => exact (hsteady.closePlugin (.refl s) p).standing_eq plugin
  | togglePlugin p => exact togglePlugin_standing s p plugin
  | runScript steps => exact runFrom_standing 1 steps s plugin

/-- What several calls make of the standing of a plugin depends only on how often they toggle it. -/
theorem calls_standing (s : Shell η) (cs : List Call) (plugin : String) :
    (s.calls cs).standing plugin = flip^[toggles plugin cs s] (s.standing plugin) := by
  induction cs generalizing s with
  | nil => rfl
  | cons c cs ih =>
      rw [toggles, Function.iterate_add_apply, ← call_standing]
      exact ih (s.call c)

/-- What `k` toggles make of a plugin that was listed `listed` times at the start. The first ones
take it off the list and leave it disabled in the registry; from then on it is listed once at most,
and the registry says the same as the list. -/
theorem iterate_flip (listed k : Nat) {standing : Nat × Bool}
    (h : flip^[k] (listed, decide (0 < listed)) = standing) :
    (k < listed → standing.1 = listed - k ∧ standing.2 = decide (k = 0)) ∧
      (listed ≤ k → standing.1 ≤ 1 ∧ standing.2 = decide (0 < standing.1)) := by
  induction k generalizing standing with
  | zero =>
      obtain rfl : (listed, decide (0 < listed)) = standing := h
      refine ⟨fun hlt => ⟨rfl, by simpa using hlt⟩, fun hle => ?_⟩
      obtain rfl : listed = 0 := Nat.le_zero.1 hle
      exact ⟨Nat.zero_le 1, rfl⟩
  | succ k ih =>
      rw [Function.iterate_succ_apply'] at h
      generalize flip^[k] (listed, decide (0 < listed)) = before at h ih
      obtain ⟨hlt, hle⟩ := ih rfl
      obtain ⟨left, enabled⟩ := before
      cases left with
      | zero =>
          obtain rfl : (1, true) = standing := h
          refine ⟨fun hk => ?_, fun _ => ⟨Nat.le_refl 1, rfl⟩⟩
          have hleft : 0 = listed - k := (hlt (by omega)).1
          omega
      | succ left =>
          obtain rfl : (left, false) = standing := h
          refine ⟨fun hk => ⟨?_, by simp⟩, fun hk => ?_⟩
          · have hleft : left + 1 = listed - k := (hlt (by omega)).1
            show left = listed - (k + 1)
            omega
          · have hleft : left = 0 := by
              by_cases hlater : listed ≤ k
              · have hone : left + 1 ≤ 1 := (hle hlater).1
                omega
              · have hlast : left + 1 = listed - k := (hlt (by omega)).1
                omega
            subst hleft
            exact ⟨Nat.zero_le 1, rfl⟩

/-- What a shell that was set up with its own list of enabled plugins knows of a plugin after some
calls: `k` of them toggled it, and the list named it `listed` times at the start. Settings and
registry agree exactly if it was never toggled, or as often as it was listed. A further toggle
returns the opposite of what the settings said; what they say afterwards is that exactly if the
entries of the start but one are off the list. Other plugins are left alone. -/
theorem calls_agree_iff (settings : Settings) (host : η) (manifests : List Manifest)
    (cs : List Call) (plugin : String) :
    let start := new settings host (.new manifests settings.enabledPlugins)
    let s := start.calls cs
    let k := toggles plugin cs start
    let listed := settings.enabledPlugins.count plugin
    (s.settings.isEnabled plugin = s.content.isEnabled plugin ↔ k = 0 ∨ listed ≤ k) ∧
      (s.togglePlugin plugin).1 = !s.settings.isEnabled plugin ∧
      ((s.togglePlugin plugin).2.settings.isEnabled plugin = (s.togglePlugin plugin).1 ↔
        listed ≤ k + 1) ∧
      ∀ other, other ≠ plugin →
        (s.togglePlugin plugin).2.settings.isEnabled other = s.settings.isEnabled other := by
  intro start s k listed
  have hstart : start.standing plugin = (listed, decide (0 < listed)) :=
    congrArg (Prod.mk listed) (settings.isEnabled_eq plugin)
  have hstanding : flip^[k] (listed, decide (0 < listed)) = s.standing plugin :=
    hstart ▸ (calls_standing start cs plugin).symm
  obtain ⟨hlt, hle⟩ := iterate_flip listed k hstanding
  have hlisted : s.settings.isEnabled plugin = decide (0 < (s.standing plugin).1) :=
    s.settings.isEnabled_eq plugin
  have hfirst : (s.togglePlugin plugin).1 = !s.settings.isEnabled plugin :=
    s.settings.toggle_fst plugin
  refine ⟨?_, hfirst, ?_, fun other hother => ?_⟩
  · show _ = (s.standing plugin).2 ↔ _
    rw [hlisted]
    rcases Nat.lt_or_ge k listed with hk | hk
    · rw [(hlt hk).1, (hlt hk).2, Bool.eq_iff_iff, decide_eq_true_iff, decide_eq_true_iff]
      omega
    · exact iff_of_true (hle hk).2.symm (.inr hk)
  · have hflip := togglePlugin_standing s plugin plugin
    rw [if_pos rfl, Function.iterate_one] at hflip
    have hnow : (s.togglePlugin plugin).2.settings.isEnabled plugin =
        decide (0 < ((s.togglePlugin plugin).2.standing plugin).1) :=
      Settings.isEnabled_eq ..
    rw [hfirst, hnow, hflip, hlisted, flip_listed]
    rcases Nat.lt_or_ge k listed with hk | hk
    · rw [(hlt hk).1]
      omega
    · exact iff_of_true (hle hk).1 (by omega)
  · have hsame := togglePlugin_standing s plugin other
    rw [if_neg (Ne.symm hother)] at hsame
    rw [Settings.isEnabled_eq, Settings.isEnabled_eq]
    exact congrArg (fun standing => decide (0 < standing.1)) hsame

/-- The settings of a file that lists a plugin twice. -/
def listedTwice : Settings := { Settings.standard with enabledPlugins := ["notes", "notes"] }

/-- A toggle takes the plugin off the list once and says that it is disabled. It still is on the
list, while the registry makes no surfaces for it any more. -/
theorem listedTwice_toggled :
    let start := new listedTwice Headless.new (.new [.named "notes"] listedTwice.enabledPlugins)
    let s := start.calls [.togglePlugin "notes"]
    Settings.ofJson? (.record [(some "enabledPlugins",
        .list [.text (some "notes"), .text (some "notes")])]) = some listedTwice ∧
      (start.togglePlugin "notes").1 = false ∧ s.settings.isEnabled "notes" = true ∧
      s.content.isEnabled "notes" = false ∧
      s.settings.isEnabled "notes" ≠ s.content.isEnabled "notes" ∧
      (s.togglePlugin "notes").2.settings.isEnabled "draw" = s.settings.isEnabled "draw" := by
  intro start s
  obtain ⟨hagree, -, -, hothers⟩ :=
    calls_agree_iff listedTwice Headless.new [.named "notes"] [.togglePlugin "notes"] "notes"
  have hdiffer : ¬ (1 = 0 ∨ 2 ≤ 1) := by decide
  exact ⟨rfl, by decide +kernel, by decide +kernel, by decide +kernel, mt hagree.1 hdiffer,
    hothers "draw" (by decide)⟩

end Toggles

end Shell

end Docking
