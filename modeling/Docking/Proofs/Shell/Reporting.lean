import Docking.Proofs.Dock.Repaints
import Docking.Proofs.Shell.Permits

/-!
# What a shell says about repaints

A shell counts the repaints that it is asked for, and when a message is dispatched it says whether
the message led to one. The count has two parts: one for the commands that the dock hands out, if
they ask for a repaint at all, and one for each tab that is made on the way. What is said is about
the first part only. So a message is reported truthfully unless it makes a tab and asks for no
repaint itself, which is what a message does that asks for a tab of a plugin and nothing else.

## Main definitions

* `Command.tabsMade`: how many tabs are made when an agenda is carried out.
* `Shell.Truthful`: what is said about a message agrees with the count of repaints.
* `Shell.OpensTab`: a message asks for a tab of a plugin that can be used.

## Main results

* `redraws_perform`, `redraws_carryOut`: one command of an agenda, and all of it.
* `redraws_dispatch`: what is said about a message, and the count after it.
* `calls_truthful_iff`: the messages that are reported truthfully after any calls.
-/

namespace Docking

namespace Command

/-- Whether a command makes a tab, with the plugins that can be used now. -/
def makesTab (r : Registry) : Command → Bool
  | instantiate plugin _ => (r.title? plugin).isSome
  | _ => false

/-- How many tabs are made when an agenda is carried out. -/
def tabsMade (r : Registry) (agenda : List Command) : Nat := (ofKind (makesTab r) agenda).length

section TabsMade

variable {r r' : Registry}

theorem tabsMade_congr (h : r'.title? = r.title?) : tabsMade r' = tabsMade r := by
  have hkind : makesTab r' = makesTab r := by
    funext c
    cases c with
    | instantiate plugin target => rw [makesTab, makesTab, h]
    | _ => rfl
  funext agenda
  rw [tabsMade, tabsMade, hkind]

theorem tabsMade_append (r : Registry) (as bs : List Command) :
    tabsMade r (as ++ bs) = tabsMade r as + tabsMade r bs := by
  rw [tabsMade, ofKind_append, List.length_append]
  rfl

theorem tabsMade_steps (r : Registry) (cs : List Command) :
    tabsMade r (steps (batch? cs)) = tabsMade r cs := by
  rw [tabsMade, ofKind_steps]
  rfl

theorem tabsMade_work (r : Registry) (cs : List Command) :
    tabsMade r (work cs) = tabsMade r cs := by
  rw [tabsMade, ofKind_work _ rfl]
  rfl

theorem tabsMade_instantiate (r : Registry) (plugin : String) (target : Option DropTarget) :
    tabsMade r [.instantiate plugin target] = (r.title? plugin).isSome.toNat := by
  rw [tabsMade, ofKind_cons]
  cases htitle : (r.title? plugin).isSome with
  | false => simp [flatten, makesTab, htitle, ofKind, flattenAll]
  | true => simp [flatten, makesTab, htitle, ofKind, flattenAll]

theorem tabsMade_batch (r : Registry) (cs : List Command) :
    tabsMade r [.batch cs] = tabsMade r cs := by
  rw [tabsMade, ofKind_cons]
  exact congrArg List.length (List.append_nil _)

theorem tabsMade_farewell (r : Registry) (st : Stay) : tabsMade r st.farewell = 0 := by
  cases st with
  | docked panel x => rfl
  | floating window x => cases window <;> rfl

end TabsMade

end Command

namespace Dock

/-- A report of a window queues no more than that the window is to be closed. -/
theorem outbox_attachWindow (d : Dock) (tab : TabId) (window : Window) :
    (d.attachWindow tab window).2.outbox = d.outbox ∨
      (d.attachWindow tab window).2.outbox = d.outbox ++ [.closeWindow window] := by
  unfold attachWindow
  split
  · exact .inl rfl
  · exact .inr rfl

end Dock

open Command (tabsMade tabsMade_congr tabsMade_append tabsMade_steps tabsMade_work
  tabsMade_instantiate tabsMade_batch)

namespace Shell

variable {η : Type} {s : Shell η}

/-! ## The count of repaints -/

/-- A tab that is made counts as one repaint, and the commands that show it make no other tab. -/
theorem redraws_instantiate (hidle : s.dock.outbox = []) (plugin : String)
    (target : Option DropTarget) :
    (s.instantiate plugin target).2.redraws =
        s.redraws + (s.content.title? plugin).isSome.toNat ∧
      tabsMade s.content (s.instantiate plugin target).1 = 0 := by
  rw [instantiate_eq, Registry.create]
  cases s.content.title? plugin with
  | none => exact ⟨rfl, rfl⟩
  | some title =>
      generalize hsurface : (⟨⟨s.content.created + 1⟩, plugin⟩ : Surface) = surface
      obtain ⟨panel, hqueue⟩ := Dock.queues_register s.dock title surface target true
      simp only [Dock.Queues, hidle, List.nil_append] at hqueue
      dsimp only [Option.map_some, Dock.takeCommands, countRedraw, Dock.dockNew]
      rw [hsurface, Command.any_batch?_needsRedraw, tabsMade_steps]
      rcases hqueue with hqueue | ⟨rejected, hqueue⟩
      · rw [hqueue]
        exact ⟨rfl, rfl⟩
      · rw [hqueue]
        exact ⟨rfl, rfl⟩

variable [WindowHost η]

/-- No command changes which plugins can be used. -/
theorem title?_perform (s : Shell η) (c : Command) :
    (s.perform c).2.content.title? = s.content.title? := by
  have hanswer (answer : Except HostError Unit × η) :
      (s.recordAnswer answer).content.title? = s.content.title? := by
    rw [recordAnswer_same]
  cases c with
  | detachWindow tab plugin =>
      show (s.openWindow tab plugin).content.title? = _
      rw [openWindow_same]
  | closeWindow window => exact hanswer _
  | raiseWindow window => exact hanswer _
  | instantiate plugin target =>
      show (s.instantiate plugin target).2.content.title? = _
      rw [instantiate_eq, Registry.create]
      cases s.content.title? plugin with
      | none => rfl
      | some title => rfl
  | nothing | redraw | mount | unmount | destroy | batch => rfl

/-- One command: what it adds to the count, with the tabs that are still to be made because of it,
is the number of tabs that it makes in the end. -/
theorem redraws_perform (hidle : s.dock.outbox = []) (c : Command) :
    (s.perform c).2.redraws + tabsMade s.content (s.perform c).1 =
      s.redraws + tabsMade s.content [c] := by
  have hanswer (answer : Except HostError Unit × η) :
      (s.recordAnswer answer).redraws = s.redraws := by
    rw [recordAnswer_same]
  cases c with
  | detachWindow tab plugin =>
      show (s.openWindow tab plugin).redraws + 0 = s.redraws + 0
      rw [openWindow_same]
  | closeWindow window | raiseWindow window => exact congrArg (· + 0) (hanswer _)
  | instantiate plugin target =>
      obtain ⟨hredraws, hmore⟩ := redraws_instantiate hidle plugin target
      show (s.instantiate plugin target).2.redraws +
        tabsMade s.content (s.instantiate plugin target).1 = _
      rw [hredraws, hmore, tabsMade_instantiate, Nat.add_zero]
  | batch cs =>
      rw [tabsMade_batch]
      rfl
  | nothing | redraw | mount | unmount | destroy => rfl

/-- An agenda adds as many repaints as it makes tabs. -/
theorem redraws_carryOut (hidle : s.dock.outbox = []) (agenda : List Command) :
    (carryOut agenda s).redraws = s.redraws + tabsMade s.content agenda := by
  fun_induction carryOut agenda s with
  | case1 => rfl
  | case2 c rest s ih =>
      rw [ih (upheld_outbox.perform c hidle), tabsMade_congr (title?_perform s c), tabsMade_append,
        ← Nat.add_assoc, redraws_perform hidle c, Nat.add_assoc, ← tabsMade_append]
      rfl

/-- The commands that are handed out count as one repaint if one of them asks for it, and each tab
that they make counts as one more. -/
theorem redraws_process (hidle : s.dock.outbox = []) (cs : List Command) :
    (s.process (Command.batch? cs)).redraws =
      s.redraws + (cs.any Command.needsRedraw).toNat + tabsMade s.content cs := by
  have hcount : (s.countRedraw (Command.batch? cs)).redraws =
      s.redraws + (cs.any Command.needsRedraw).toNat := by
    rw [countRedraw, Command.any_batch?_needsRedraw]
    cases cs.any Command.needsRedraw with
    | false => rfl
    | true => rfl
  have hrest : (s.countRedraw (Command.batch? cs)).dock.outbox = [] := hidle
  unfold process
  rw [redraws_carryOut hrest, hcount, tabsMade_steps]
  rfl

/-! ## Messages and reports -/

theorem fst_react (s : Shell η) (m : Message) :
    (s.react m).1 = (s.dock.receive m).outbox.any Command.needsRedraw :=
  Command.any_batch?_needsRedraw _

theorem redraws_react (s : Shell η) (m : Message) :
    (s.react m).2.redraws =
      s.redraws + (s.react m).1.toNat + tabsMade s.content (s.dock.receive m).outbox := by
  rw [fst_react]
  exact redraws_process (s := { s with dock := (s.dock.handle m).2 }) rfl _

/-- The reports of the host lead to no repaint. -/
theorem redraws_settle (hidle : s.dock.outbox = []) :
    s.settle.1 = false ∧ s.settle.2.redraws = s.redraws := by
  fun_induction settle s with
  | case1 => exact ⟨rfl, rfl⟩
  | case2 s tab window rest hinbox first hlt others ih =>
      have hsilent : ((s.dock.attachWindow tab window).2.outbox).any Command.needsRedraw = false ∧
          tabsMade s.content (s.dock.attachWindow tab window).2.outbox = 0 := by
        rcases s.dock.outbox_attachWindow tab window with hqueue | hqueue
        · rw [hqueue, hidle]
          exact ⟨rfl, rfl⟩
        · rw [hqueue, hidle]
          exact ⟨rfl, rfl⟩
      have hfirst : first.1 = false := (fst_react _ _).trans hsilent.1
      have hcount : first.2.redraws = s.redraws := by
        rw [redraws_react { s with inbox := rest } (.windowOpened tab window)]
        show s.redraws + first.1.toNat +
          tabsMade s.content (s.dock.attachWindow tab window).2.outbox = s.redraws
        rw [hfirst, hsilent.2]
        rfl
      obtain ⟨hothers, hlast⟩ := ih (upheld_outbox.react _ hidle)
      exact ⟨by rw [hfirst, hothers]; rfl, hlast.trans hcount⟩

/-- What is said about a message is whether the dock hands out a command that asks for a repaint.
The count has one more for that, and one more for each tab that is made. -/
theorem redraws_dispatch (s : Shell η) (m : Message) :
    (s.dispatch m).1 = (s.dock.receive m).outbox.any Command.needsRedraw ∧
      (s.dispatch m).2.redraws =
        s.redraws + (s.dispatch m).1.toNat + tabsMade s.content (s.dock.receive m).outbox := by
  have hidle : (s.react m).2.dock.outbox = [] :=
    upheld_outbox.process (s := { s with dock := (s.dock.handle m).2 }) _ rfl
  obtain ⟨hreports, hcount⟩ := redraws_settle hidle
  have hsaid : (s.dispatch m).1 = (s.react m).1 := by
    show ((s.react m).1 || (s.react m).2.settle.1) = _
    rw [hreports, Bool.or_false]
  rw [hsaid]
  exact ⟨fst_react s m, hcount.trans (redraws_react s m)⟩

/-! ## Truthful reports -/

/-- What is said about a message agrees with the count of repaints. -/
def Truthful (s : Shell η) (m : Message) : Prop :=
  (s.dispatch m).1 = true ↔ s.redraws < (s.dispatch m).2.redraws

/-- A message asks for a tab of a plugin, and the plugin can be used. -/
def OpensTab (s : Shell η) (m : Message) : Prop :=
  ∃ plugin, m = .openPlugin plugin ∧ (s.content.title? plugin).isSome

/-- A message is reported truthfully unless tabs are made while no repaint is asked for. -/
theorem truthful_iff (s : Shell η) (m : Message) :
    s.Truthful m ↔
      ((s.dispatch m).1 = false → tabsMade s.content (s.dock.receive m).outbox = 0) := by
  obtain ⟨-, hcount⟩ := redraws_dispatch s m
  unfold Truthful
  rw [hcount]
  cases (s.dispatch m).1 with
  | true => simp [Nat.lt_add_right]
  | false => simp

/-- An operation that asks for a tab asks for a repaint, too: somebody dropped something that is
none of the floating tabs. -/
theorem needsRedraw_of_tabsMade {d : Dock} {l : Layout} {b : Book} (h : d.Keeps l b)
    (hidle : d.outbox = []) (r : Registry) {op : Operation}
    (hmade : tabsMade r (d.apply op).outbox ≠ 0) :
    (d.apply op).outbox.any Command.needsRedraw = true := by
  obtain ⟨m, b', -, hcourse⟩ := Dock.apply_course h op
  rw [outbox_eq_queued hidle, ← tabsMade_work] at hmade
  generalize hwork : Command.work (d.queued op) = cmds at hcourse hmade
  cases hcourse with
  | close hst => exact absurd (Command.tabsMade_farewell r _) hmade
  | request target hst =>
      exact List.any_eq_true.2 ⟨.redraw, List.mem_append_right _ (List.mem_singleton_self _), rfl⟩
  | _ => exact absurd rfl hmade

theorem outbox_receive_openPlugin {d : Dock} (hidle : d.outbox = []) (plugin : String) :
    (d.receive (.openPlugin plugin)).outbox = [.instantiate plugin none] := by
  simp only [Dock.receive, Dock.emit, hidle, List.nil_append]

theorem OpensTab.dispatch {m : Message} (h : s.OpensTab m) (hidle : s.dock.outbox = []) :
    (s.dispatch m).1 = false ∧ (s.dispatch m).2.redraws = s.redraws + 1 := by
  obtain ⟨plugin, rfl, htitle⟩ := h
  obtain ⟨hsaid, hcount⟩ := redraws_dispatch s (.openPlugin plugin)
  rw [outbox_receive_openPlugin hidle] at hsaid hcount
  rw [hsaid, tabsMade_instantiate, htitle] at hcount
  exact ⟨hsaid, hcount⟩

/-- After any calls, over every host: a message is reported truthfully exactly if it does not ask
for a tab of a plugin that can be used. Such a message leads to one repaint, and it is said that it
leads to none. -/
theorem calls_truthful_iff (settings : Settings) (host : η) (content : Registry) (cs : List Call)
    (m : Message) :
    let s := (new settings host content).calls cs
    (s.Truthful m ↔ ¬ s.OpensTab m) ∧
      (s.OpensTab m → (s.dispatch m).1 = false ∧ (s.dispatch m).2.redraws = s.redraws + 1) := by
  intro s
  obtain ⟨b, ⟨⟨l, hkeeps⟩, hidle, -⟩, -⟩ : s.Orderly :=
    lasting_orderly.calls (orderly_new settings host content) cs
  refine ⟨⟨fun htruthful hopens => ?_, fun hopens => ?_⟩, fun hopens => hopens.dispatch hidle⟩
  · obtain ⟨hsaid, hcount⟩ := hopens.dispatch hidle
    have hmore : s.redraws < (s.dispatch m).2.redraws := hcount ▸ Nat.lt_succ_self _
    rw [htruthful.2 hmore] at hsaid
    cases hsaid
  · refine (truthful_iff s m).2 fun hsaid => ?_
    rw [(redraws_dispatch s m).1] at hsaid
    rcases receive_cases m with ⟨op, hreceive, -⟩ | ⟨plugin, rfl⟩
    · rw [hreceive] at hsaid ⊢
      by_contra hmade
      rw [needsRedraw_of_tabsMade hkeeps hidle s.content hmade] at hsaid
      cases hsaid
    · have htitle : (s.content.title? plugin).isSome = false :=
        Bool.not_eq_true _ ▸ fun htitle => hopens ⟨plugin, rfl, htitle⟩
      rw [outbox_receive_openPlugin hidle, tabsMade_instantiate, htitle]
      rfl

/-- The plugin manager is asked for: its tab is docked, which counts as a repaint, and it is said
that there was none. To show the tab then is reported truthfully. -/
theorem managerAsked_untold :
    let s := new Settings.standard Headless.new (.new [] [])
    ¬ s.Truthful (.openPlugin Registry.managerName) ∧
      (s.dispatch (.openPlugin Registry.managerName)).1 = false ∧
      (s.dispatch (.openPlugin Registry.managerName)).2.redraws = s.redraws + 1 ∧
      (s.call (.dispatch (.openPlugin Registry.managerName))).Truthful (.activate ⟨1⟩) := by
  intro s
  have hopens : s.OpensTab (.openPlugin Registry.managerName) := ⟨_, rfl, by decide⟩
  obtain ⟨htruthful, hcount⟩ := calls_truthful_iff Settings.standard Headless.new (.new [] []) []
    (.openPlugin Registry.managerName)
  obtain ⟨hshown, -⟩ := calls_truthful_iff Settings.standard Headless.new (.new [] [])
    [.dispatch (.openPlugin Registry.managerName)] (.activate ⟨1⟩)
  refine ⟨fun h => htruthful.1 h hopens, (hcount hopens).1, (hcount hopens).2, ?_⟩
  exact hshown.2 fun hnever => by
    obtain ⟨plugin, hsame, -⟩ := hnever
    cases hsame

end Shell

end Docking
