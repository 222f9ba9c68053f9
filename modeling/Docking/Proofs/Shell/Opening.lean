import Docking.Proofs.Shell.Reporting

/-!
# Two ways to open a plugin

A tab of a plugin can be asked for by a message: the dock queues a request, which the shell carries
out, which again makes the dock queue what shows the tab. Or the shell is called to open the plugin,
and carries out what the dock has queued then. Both ways come to the same, in every layout, because
both go to the default panel and have the same commands carried out; and a plugin that can not be
used leaves the shell as it is in both.

## Main results

* `react_openPlugin`: the message is the request carried out.
* `openPlugin_eq_carryOut`: so is the call.
* `calls_openPlugin_either`: both ways, after any calls.
-/

namespace Docking

namespace Shell

variable {η : Type} [WindowHost η] {s : Shell η}

/-- A message that asks for a plugin is nothing but a request for a tab in the default panel. -/
theorem react_openPlugin (hidle : s.dock.outbox = []) (plugin : String) :
    (s.react (.openPlugin plugin)).2 =
      carryOut (s.instantiate plugin none).1 (s.instantiate plugin none).2 := by
  have hqueue := outbox_receive_openPlugin hidle plugin
  have hhandle :
      s.dock.handle (.openPlugin plugin) = (some (.instantiate plugin none), s.dock) := by
    have hdock : { s.dock.receive (.openPlugin plugin) with outbox := [] } = s.dock := by
      rw [← hidle]
      rfl
    unfold Dock.handle Dock.takeCommands
    rw [hqueue]
    exact congrArg _ hdock
  have hsteps : Command.steps (some (.instantiate plugin none)) = [.instantiate plugin none] := rfl
  unfold react process
  rw [hhandle]
  dsimp only
  rw [hsteps, carryOut_cons, List.append_nil]
  rfl

/-- Without reports of the host, to open a plugin in front is to carry out the request for a tab in
the default panel, and then to read what the host reports. -/
theorem openPlugin_eq_carryOut (hinbox : s.inbox = []) (plugin : String) :
    (s.openPlugin plugin true).2 =
      (carryOut (s.instantiate plugin none).1 (s.instantiate plugin none).2).settle.2 := by
  rw [openPlugin_eq, instantiate_eq]
  cases s.content.create plugin with
  | none =>
      dsimp only
      rw [carryOut_nil, settle_of_read hinbox]
  | some made => rfl

/-- An idle shell opens a plugin in either way. -/
theorem Idle.openPlugin_either (h : s.Idle) (plugin : String) :
    (s.dispatch (.openPlugin plugin)).2 = (s.openPlugin plugin true).2 := by
  obtain ⟨hidle, hinbox⟩ := h
  rw [openPlugin_eq_carryOut hinbox, ← react_openPlugin hidle]
  rfl

/-- After any calls, over every host: whether a message asks for a plugin or the shell is called to
open it in front, the shell is the same afterwards. -/
theorem calls_openPlugin_either (settings : Settings) (host : η) (content : Registry)
    (cs : List Call) (plugin : String) :
    let s := (new settings host content).calls cs
    (s.dispatch (.openPlugin plugin)).2 = (s.openPlugin plugin true).2 := by
  intro s
  have hidle : s.Idle := lasting_idle.calls (s := new settings host content) ⟨rfl, rfl⟩ cs
  exact hidle.openPlugin_either plugin

end Shell

end Docking
