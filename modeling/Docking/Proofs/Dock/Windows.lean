import Mathlib.Data.List.Infix
import Docking.Proofs.Dock.History

/-!
# What becomes of windows

A floating tab asks for a window, and sooner or later the window is reported. By then the tab may
have been closed or docked, and it may float again. The dock either gives the window to the tab or
closes it; and when a tab with a window is closed, docked or dropped, the window is closed or handed
back. But a tab that has a window already takes another one in its place, and then nobody knows of
the first one any more.

For windows there are three kinds of courses (`Passing`): the tabs keep their windows, a tab takes
one, or a tab gives one away.

## Main definitions

* `Fresh`: the windows that are reported in a run are new.
* `Dock.Accounted`: a window is held by one tab, or was closed or handed back.

## Main results

* `run_accounted_iff`: no window is forgotten during a run if and only if every window is reported
  to a tab without a window.
-/

namespace Docking

/-! ## Operations and windows -/

namespace Operation

/-- The window that is reported to be open. -/
def reported? : Operation → Option Window
  | attachWindow _ window => some window
  | _ => none

/-- The window that an operation names. -/
def named? : Operation → Option Window
  | attachWindow _ window => some window
  | externalDrop payload _ => payload.window
  | _ => none

/-- Whether an operation reports a window to a tab. -/
def reportsTo (tab : TabId) : Operation → Bool
  | attachWindow t _ => decide (t = tab)
  | _ => false

theorem reported?_eq_some_iff {op : Operation} {window : Window} :
    op.reported? = some window ↔ ∃ tab, op = attachWindow tab window := by
  cases op <;> simp [reported?]

theorem named?_of_reported? {op : Operation} {window : Window} (h : op.reported? = some window) :
    op.named? = some window := by
  cases op with
  | attachWindow => exact h
  | _ => cases h

end Operation

/-- The window that a command closes. -/
def Command.closed? : Command → Option Window
  | closeWindow window => some window
  | _ => none

/-- Whether a command asks for a window for a tab. -/
def Command.asksFor (tab : TabId) : Command → Bool
  | detachWindow t _ => decide (t = tab)
  | _ => false

theorem Command.closed_work (cs : List Command) :
    (work cs).filterMap closed? = cs.filterMap closed? := by
  rw [work, List.filterMap_filter]
  refine List.filterMap_congr fun c _ => ?_
  cases c <;> rfl

/-- Every window that is reported is new: no operation has named it before. -/
def Fresh (ops : List Operation) : Prop :=
  ops.Pairwise fun x y => ∀ window, y.reported? = some window → x.named? ≠ some window

/-- What a course is for the windows of tabs. The lists are those of the windows that are closed and
of those that are handed back. -/
inductive Passing (b : Book) (op : Operation) (b' : Book) : List Window → List Window → Prop
  /-- All tabs keep their windows. A window that is reported is closed, and another one that is
  closed is held by no tab. -/
  | keep {closed : List Window} (h : ∀ j, b'.window? j = b.window? j)
      (hnamed : ∀ w ∈ closed, op.named? = some w)
      (hheld : ∀ w ∈ closed, op.reported? ≠ some w → ∀ j, b.window? j ≠ some w)
      (hrefused : ∀ tab w, op = .attachWindow tab w → w ∈ closed ∧ b.window? tab = none) :
      Passing b op b' closed []
  /-- A tab takes the window that is reported. -/
  | take {tab : TabId} {w : Window} (hop : op = .attachWindow tab w)
      (h : ∀ j, b'.window? j = if tab = j then some w else b.window? j) : Passing b op b' [] []
  /-- A tab gives its window away: it is closed or handed back. -/
  | give (hop : op.reported? = none) {tab : TabId} {w : Window} (hw : b.window? tab = some w)
      (h : ∀ j, b'.window? j = if tab = j then none else b.window? j)
      {closed released : List Window} (hspent : closed ++ released = [w]) :
      Passing b op b' closed released

section Passing

variable {b b' : Book} {op : Operation} {cmds : List Command} {tab : TabId} {st : Stay}

/-- Where no window is closed or handed back, it is enough that the tabs have the same windows. -/
private theorem Passing.idle (h : ∀ j, b'.window? j = b.window? j)
    (hop : op.reported? = none) : Passing b op b' [] [] := by
  refine .keep h (fun w hw => by cases hw) (fun w hw => by cases hw) ?_
  rintro tab w rfl
  cases hop

/-- A tab that had a window has none any more. -/
private theorem Passing.leave (hop : op.reported? = none) {new : Option Stay}
    (hst : b.stays tab = some st) (hnew : new.bind Stay.window? = none)
    {closed released : List Window} (hspent : closed ++ released = st.window?.toList) :
    Passing b op (b.set tab new) closed released := by
  have hwindow : b.window? tab = st.window? := by rw [Book.window?, hst]; rfl
  cases hw : st.window? with
  | none =>
      rw [hw] at hspent hwindow
      obtain ⟨rfl, rfl⟩ := List.append_eq_nil_iff.1 hspent
      refine .idle (fun j => ?_) hop
      rw [Book.window?_set, hnew]
      split
      · next htab => rw [← htab, hwindow]
      · rfl
  | some w =>
      rw [hw] at hspent hwindow
      refine .give hop hwindow (fun j => ?_) hspent
      rw [Book.window?_set, hnew]

theorem Operation.reported?_of_mayRest (h : op.mayRest) : op.reported? = none := by
  cases op <;> first | rfl | cases h

theorem Book.handedBack?_of_mayRest (h : op.mayRest) : b.handedBack? op = none := by
  cases op <;> first | rfl | cases h

theorem Stay.closed_farewell (st : Stay) :
    st.farewell.filterMap Command.closed? = st.window?.toList := by
  cases st with
  | docked panel x => rfl
  | floating window x => cases window <;> rfl

/-- A tab that does not float has no window. -/
private theorem window?_of_not_floating
    (h : ∀ window entry, b.stays tab ≠ some (.floating window entry)) : b.window? tab = none := by
  rw [Book.window?]
  cases hst : b.stays tab with
  | none => rfl
  | some st =>
      cases st with
      | docked panel x => rfl
      | floating window x => exact absurd hst (h window x)

/-- A docked tab goes somewhere without a window. -/
private theorem Passing.wander (hop : op.mayRest) {source : NodeId} {entry : TabEntry}
    (hst : b.stays tab = some (.docked source entry)) {new : Stay} (hnew : new.window? = none) :
    Passing b op (b.set tab (some new)) [] (b.handedBack? op).toList := by
  rw [Book.handedBack?_of_mayRest hop]
  have hnone : (some new).bind Stay.window? = none := hnew
  exact .leave (Operation.reported?_of_mayRest hop) hst hnone rfl

/-- Every course is one of the three kinds. -/
theorem Course.passing (h : Course b op b' cmds) :
    Passing b op b' (cmds.filterMap Command.closed?) (b.handedBack? op).toList := by
  cases h with
  | rest hop | raise hop _ =>
      rw [Book.handedBack?_of_mayRest hop]
      exact .idle (fun j => rfl) (Operation.reported?_of_mayRest hop)
  | @enter _ title surface hop hnew panel =>
      have hidle : ∀ j, (b.enter panel title surface).window? j = b.window? j := by
        intro j
        rw [Book.enter, Book.window?_set]
        split
        · next htab => rw [← htab, Book.window?, hnew]; rfl
        · rfl
      have hreported : op.reported? = none := by cases op <;> first | rfl | cases hop
      have hhanded : b.handedBack? op = none := by cases op <;> first | rfl | cases hop
      rw [hhanded]
      exact .idle hidle hreported
  | close h =>
      rw [Stay.closed_farewell]
      exact .leave rfl h rfl (List.append_nil _)
  | move hop h panel => exact .wander hop h rfl
  | float hop h => exact .wander hop h rfl
  | attach h =>
      refine .take rfl fun j => ?_
      rw [Book.window?_set]
      rfl
  | @refuse tab window h =>
      refine .keep (fun j => rfl) ?_ ?_ ?_
      · intro w hw
        rw [List.mem_singleton.1 hw]
        rfl
      · intro w hw hne
        exact absurd (congrArg some (List.mem_singleton.1 hw).symm) hne
      · intro tab' w hop
        obtain ⟨rfl, rfl⟩ := Operation.attachWindow.inj hop
        exact ⟨List.mem_singleton_self _, window?_of_not_floating h⟩
  | land hst panel =>
      refine .leave rfl hst rfl ?_
      rw [Book.handedBack?, Book.window?, hst]
      rfl
  | @miss tab target h =>
      have hhanded : b.handedBack? (.dockFloating tab target) = none := window?_of_not_floating h
      rw [hhanded]
      exact .idle (fun j => rfl) rfl
  | drop hst panel => exact .leave rfl hst rfl rfl
  | @request payload point target h =>
      have hclosed : (.instantiate payload.plugin target :: payload.window.toList.map
          Command.closeWindow).filterMap Command.closed? = payload.window.toList := by
        cases payload.window <;> rfl
      rw [hclosed]
      refine .keep (fun j => rfl) (fun w hw => Option.mem_toList.1 hw) ?_ ?_
      · intro w hw _ j hj
        obtain ⟨st, hst, hwindow⟩ := Option.bind_eq_some_iff.1 hj
        exact h w (Option.mem_toList.1 hw) j st hst hwindow
      · rintro tab w hop
        cases hop

end Passing

/-! ## Books and windows -/

namespace Book

/-- What is known of windows: those that operations have named, those that were reported, and those
that were closed or handed back. A window that a tab has was reported, and it is in use nowhere
else. -/
structure Tracks (b : Book) (named reported closed released : List Window) : Prop where
  single : ∀ {w i j}, b.window? i = some w → b.window? j = some w → i = j
  held : ∀ {w j}, b.window? j = some w → w ∈ reported ∧ w ∉ closed ∧ w ∉ released
  known : ∀ {w}, w ∈ reported ∨ w ∈ closed ∨ w ∈ released → w ∈ named

/-- Every window that was reported is held by a tab, or was closed or handed back. -/
def Covers (b : Book) (reported closed released : List Window) : Prop :=
  ∀ w ∈ reported, (∃ j, b.window? j = some w) ∨ w ∈ closed ∨ w ∈ released

section Tracks

variable {b b' : Book} {op : Operation} {named reported closed released cs rs : List Window}

theorem tracks_empty : empty.Tracks [] [] [] [] where
  single := fun h => by cases h
  held := fun h => by cases h
  known := by simp

/-- What a course closes or hands back, and what is reported, has a name that was heard of. -/
theorem Tracks.known_pass (h : b.Tracks named reported closed released)
    (hpass : Passing b op b' cs rs) {w : Window}
    (hw : op.reported? = some w ∨ w ∈ cs ∨ w ∈ rs) : w ∈ named ++ op.named?.toList := by
  rcases hw with hw | hw
  · exact List.mem_append_right _ (Option.mem_toList.2 (Operation.named?_of_reported? hw))
  · cases hpass with
    | keep hsame hnamed hheld hrefused =>
        exact List.mem_append_right _ (Option.mem_toList.2 (hnamed w (hw.resolve_right (by simp))))
    | take hop hwindow => simp at hw
    | give hop hgiven hwindow hspent =>
        rw [← List.mem_append, hspent, List.mem_singleton] at hw
        rw [hw]
        exact List.mem_append_left _ (h.known (.inl (h.held hgiven).1))

/-- Along every course windows stay where they can be found, as long as the windows that are
reported are new. -/
theorem Tracks.pass (h : b.Tracks named reported closed released)
    (hfresh : ∀ w, op.reported? = some w → w ∉ named) (hpass : Passing b op b' cs rs) :
    b'.Tracks (named ++ op.named?.toList) (reported ++ op.reported?.toList) (closed ++ cs)
      (released ++ rs) := by
  have hnew : ∀ {w j}, b.window? j = some w → op.reported? ≠ some w := by
    intro w j hj hop
    exact hfresh w hop (h.known (.inl (h.held hj).1))
  have hknown : ∀ {w}, w ∈ reported ++ op.reported?.toList ∨ w ∈ closed ++ cs ∨
      w ∈ released ++ rs → w ∈ named ++ op.named?.toList := by
    intro w hw
    simp only [List.mem_append, Option.mem_toList] at hw
    by_cases hold : w ∈ reported ∨ w ∈ closed ∨ w ∈ released
    · exact List.mem_append_left _ (h.known hold)
    · refine h.known_pass hpass ?_
      tauto
  cases hpass with
  | keep hsame hnamed hheld hrefused =>
      refine { single := ?_, held := ?_, known := hknown }
      · intro w i j hi hj
        rw [hsame] at hi hj
        exact h.single hi hj
      · intro w j hj
        rw [hsame] at hj
        obtain ⟨hmem, hclosed, hreleased⟩ := h.held hj
        refine ⟨List.mem_append_left _ hmem, ?_, by simpa using hreleased⟩
        rw [List.mem_append, not_or]
        exact ⟨hclosed, fun hcs => hheld w hcs (hnew hj) j hj⟩
  | @take tab w hop hwindow =>
      have hreported : op.reported? = some w := by
        rw [hop]
        rfl
      refine { single := ?_, held := ?_, known := hknown }
      · intro w' i j hi hj
        rw [hwindow] at hi hj
        split at hi <;> split at hj
        · next hi' hj' => exact hi'.symm.trans hj'
        · exact absurd (hi ▸ hreported) (hnew hj)
        · exact absurd (hj ▸ hreported) (hnew hi)
        · exact h.single hi hj
      · intro w' j hj
        rw [List.append_nil, List.append_nil]
        rw [hwindow] at hj
        split at hj
        · rw [← Option.some.inj hj]
          refine ⟨List.mem_append_right _ (Option.mem_toList.2 hreported), ?_, ?_⟩
          · exact fun hclosed => hfresh w hreported (h.known (.inr (.inl hclosed)))
          · exact fun hreleased => hfresh w hreported (h.known (.inr (.inr hreleased)))
        · exact ⟨List.mem_append_left _ (h.held hj).1, (h.held hj).2⟩
  | @give _ tab w hw hwindow cs rs hspent =>
      have hkeep : ∀ {w' j}, b'.window? j = some w' → b.window? j = some w' ∧ w' ≠ w := by
        intro w' j hj
        rw [hwindow] at hj
        split at hj
        · cases hj
        · next htab => exact ⟨hj, fun hww => htab (h.single hw (hww ▸ hj))⟩
      refine { single := ?_, held := ?_, known := hknown }
      · exact fun hi hj => h.single (hkeep hi).1 (hkeep hj).1
      · intro w' j hj
        obtain ⟨hj, hne⟩ := hkeep hj
        obtain ⟨hmem, hclosed, hreleased⟩ := h.held hj
        have hgone : w' ∉ cs ++ rs := by
          rw [hspent, List.mem_singleton]
          exact hne
        rw [List.mem_append, not_or] at hgone
        simp only [List.mem_append, hmem, hclosed, hreleased, hgone, true_or, or_self,
          not_false_eq_true, and_self]

/-- Along every course the windows that were reported stay accounted for, as long as no tab takes a
window in place of another one. -/
theorem Covers.pass (h : b.Covers reported closed released)
    (hfirst : ∀ tab w, op = .attachWindow tab w → b.window? tab = none)
    (hpass : Passing b op b' cs rs) :
    b'.Covers (reported ++ op.reported?.toList) (closed ++ cs) (released ++ rs) := by
  intro w hw
  rw [List.mem_append, Option.mem_toList] at hw
  simp only [List.mem_append]
  cases hpass with
  | keep hsame hnamed hheld hrefused =>
      rcases hw with hw | hw
      · rcases h w hw with ⟨j, hj⟩ | hclosed | hreleased
        · exact .inl ⟨j, (hsame j).trans hj⟩
        · exact .inr (.inl (.inl hclosed))
        · exact .inr (.inr (.inl hreleased))
      · obtain ⟨tab, rfl⟩ := Operation.reported?_eq_some_iff.1 hw
        exact .inr (.inl (.inr (hrefused tab w rfl).1))
  | @take tab w' hop hwindow =>
      subst hop
      rcases hw with hw | hw
      · rcases h w hw with ⟨j, hj⟩ | hclosed | hreleased
        · refine .inl ⟨j, ?_⟩
          rw [hwindow, if_neg, hj]
          rintro rfl
          rw [hfirst tab w' rfl] at hj
          cases hj
        · exact .inr (.inl (.inl hclosed))
        · exact .inr (.inr (.inl hreleased))
      · exact .inl ⟨tab, by rw [hwindow, if_pos rfl]; exact hw⟩
  | @give hop tab w' hgiven hwindow cs rs hspent =>
      rcases hw with hw | hw
      · rcases h w hw with ⟨j, hj⟩ | hclosed | hreleased
        · by_cases htab : tab = j
          · rw [← htab, hgiven] at hj
            have hgone : w ∈ cs ++ rs := by
              rw [hspent, List.mem_singleton]
              exact (Option.some.inj hj).symm
            rcases List.mem_append.1 hgone with hgone | hgone
            · exact .inr (.inl (.inr hgone))
            · exact .inr (.inr (.inr hgone))
          · exact .inl ⟨j, by rw [hwindow, if_neg htab, hj]⟩
        · exact .inr (.inl (.inl hclosed))
        · exact .inr (.inr (.inl hreleased))
      · rw [hop] at hw
        cases hw

end Tracks

end Book

/-! ## Runs -/

namespace Dock

/-- The window of a tab, if it floats and its window is known. -/
def windowOf? (d : Dock) (tab : TabId) : Option Window := (d.item? tab).bind Item.window?

/-- The windows that were reported to a run. -/
def delivered (ops : List Operation) : List Window := ops.filterMap Operation.reported?

/-- The windows that a run has asked to close. -/
def closedOff (settings : DragSettings) (ops : List Operation) : List Window :=
  ((new settings).emitted ops).filterMap Command.closed?

/-- What has become of a window: exactly one tab holds it, or it was to be closed, or it was handed
back. -/
def Accounted (settings : DragSettings) (ops : List Operation) (w : Window) : Prop :=
  (∃! tab, ((new settings).run ops).windowOf? tab = some w) ∨
    .closeWindow w ∈ (new settings).emitted ops ∨ w ∈ (new settings).released ops

/-- Every window is reported to a tab that has none. -/
def Awaited (settings : DragSettings) (ops : List Operation) : Prop :=
  ∀ before tab w, before ++ [.attachWindow tab w] <+: ops →
    ((new settings).run before).windowOf? tab = none

section Runs

variable {d : Dock} {l : Layout} {b : Book} (settings : DragSettings) {ops : List Operation}

theorem Keeps.windowOf?_eq (h : d.Keeps l b) (tab : TabId) : d.windowOf? tab = b.window? tab := by
  rw [windowOf?, Book.window?, h.item]
  cases b.stays tab <;> simp

theorem mem_closedOff {w : Window} :
    w ∈ closedOff settings ops ↔ .closeWindow w ∈ (new settings).emitted ops := by
  rw [closedOff, List.mem_filterMap]
  constructor
  · rintro ⟨c, hc, hw⟩
    cases c with
    | closeWindow v =>
        obtain rfl := Option.some.inj hw
        exact hc
    | _ => cases hw
  · exact fun h => ⟨_, h, rfl⟩

/-- After every run in which the reported windows are new, the book tracks them; and it covers them
if no tab has taken a window in place of another one. -/
theorem run_tracks (ops : List Operation) : ∃ l b, ((new settings).run ops).Keeps l b ∧
    (Fresh ops → b.Tracks (ops.filterMap Operation.named?) (delivered ops)
        (closedOff settings ops) ((new settings).released ops) ∧
      (Awaited settings ops → b.Covers (delivered ops) (closedOff settings ops)
        ((new settings).released ops))) := by
  refine run_book settings ops (motive := fun ops b => Fresh ops →
    b.Tracks (ops.filterMap Operation.named?) (delivered ops) (closedOff settings ops)
      ((new settings).released ops) ∧ (Awaited settings ops → b.Covers (delivered ops)
        (closedOff settings ops) ((new settings).released ops)))
    (fun _ => ⟨Book.tracks_empty, fun _ w hw => by cases hw⟩) ?_
  intro ops op l b b' h k hcourse hfresh
  obtain ⟨hbefore, -, hlast⟩ := List.pairwise_append.1 hfresh
  obtain ⟨htracks, hcovers⟩ := k hbefore
  have hpass := hcourse.passing
  rw [Command.closed_work, ← h.handedBack_eq] at hpass
  have hclosed : closedOff settings (ops ++ [op]) = closedOff settings ops ++
      (((new settings).run ops).queued op).filterMap Command.closed? := by
    rw [closedOff, emitted_concat, List.filterMap_append]
    rfl
  have hone : ∀ f : Operation → Option Window, [op].filterMap f = (f op).toList := by
    intro f
    cases hf : f op <;> simp [hf]
  rw [delivered, List.filterMap_append, List.filterMap_append, hone, hone, hclosed,
    released_concat]
  refine ⟨htracks.pass ?_ hpass, fun hawaited => (hcovers ?_).pass ?_ hpass⟩
  · intro w hw hmem
    obtain ⟨x, hx, hname⟩ := List.mem_filterMap.1 hmem
    exact hlast x hx op (List.mem_singleton_self _) w hw hname
  · exact fun before tab w hinit =>
      hawaited before tab w (hinit.trans (List.prefix_append ..))
  · rintro tab w rfl
    rw [← h.windowOf?_eq]
    exact hawaited ops tab w List.prefix_rfl

/-- A tab that takes a window in place of another one leaves the other one unaccounted for. -/
theorem not_accounted_of_replaced {before : List Operation} {tab : TabId} {w old : Window}
    (hfresh : Fresh (before ++ [.attachWindow tab w]))
    (hold : ((new settings).run before).windowOf? tab = some old) :
    old ∈ delivered before ∧ ¬ Accounted settings (before ++ [.attachWindow tab w]) old := by
  obtain ⟨l, b, h, htracks⟩ := run_tracks settings before
  obtain ⟨hbefore, -, hlast⟩ := List.pairwise_append.1 hfresh
  obtain ⟨k, -⟩ := htracks hbefore
  rw [h.windowOf?_eq] at hold
  obtain ⟨hmem, hclosed, hreleased⟩ := k.held hold
  refine ⟨hmem, ?_⟩
  obtain ⟨m, b', h', hcourse⟩ := apply_course h (.attachWindow tab w)
  have hpass := hcourse.passing
  rw [Command.closed_work] at hpass
  obtain ⟨hqueued, hwindow⟩ : (((new settings).run before).queued (.attachWindow tab w)).filterMap
      Command.closed? = [] ∧ ∀ j, b'.window? j = if tab = j then some w else b.window? j := by
    generalize List.filterMap .. = cs at hpass ⊢
    cases hpass with
    | keep hsame hnamed hheld hrefused =>
        rw [(hrefused tab w rfl).2] at hold
        cases hold
    | take hop hwindow =>
        obtain ⟨rfl, rfl⟩ := Operation.attachWindow.inj hop
        exact ⟨rfl, hwindow⟩
    | give hop => cases hop
  rintro (⟨j, hj, -⟩ | hcloses | hreleases)
  · replace hj :
        ((new settings).run (before ++ [.attachWindow tab w])).windowOf? j = some old := hj
    rw [run_concat, h'.windowOf?_eq, hwindow] at hj
    split at hj
    · -- the new window is not the old one, which was named before
      obtain ⟨x, hx, hname⟩ := List.mem_filterMap.1 (k.known (.inl hmem))
      exact hlast x hx _ (List.mem_singleton_self _) w rfl (hj ▸ hname)
    · next htab => exact htab (k.single hold hj)
  · rw [← mem_closedOff, closedOff, emitted_concat, List.filterMap_append, hqueued,
      List.append_nil] at hcloses
    exact hclosed hcloses
  · rw [released_concat] at hreleases
    exact hreleased (by simpa [handedBack] using hreleases)

/-- After every step of a run in which the reported windows are new, every window that was reported
so far is accounted for, if and only if every window is reported to a tab that has none. -/
theorem run_accounted_iff (hfresh : Fresh ops) :
    (∀ before, before <+: ops → ∀ w ∈ delivered before, Accounted settings before w) ↔
      Awaited settings ops := by
  constructor
  · intro haccounted before tab w hinit
    cases hold : ((new settings).run before).windowOf? tab with
    | none => rfl
    | some old =>
        obtain ⟨hmem, hnot⟩ := not_accounted_of_replaced settings
          (hfresh.sublist hinit.sublist) hold
        refine absurd (haccounted _ hinit old ?_) hnot
        rw [delivered, List.filterMap_append]
        exact List.mem_append_left _ hmem
  · intro hawaited before hinit w hw
    obtain ⟨l, b, h, htracks⟩ := run_tracks settings before
    obtain ⟨k, hcovers⟩ := htracks (hfresh.sublist hinit.sublist)
    rcases hcovers (fun earlier tab w hearlier => hawaited earlier tab w (hearlier.trans hinit))
      w hw with ⟨tab, htab⟩ | hclosed | hreleased
    · refine .inl ⟨tab, (h.windowOf?_eq tab).trans htab, fun other hother => ?_⟩
      exact k.single ((h.windowOf?_eq other).symm.trans hother) htab
    · exact .inr (.inl ((mem_closedOff settings).1 hclosed))
    · exact .inr (.inr hreleased)

/-- A host reports to every tab at most as many windows as were asked for. -/
def Answers (ops : List Operation) : Prop :=
  ∀ before tab w, before ++ [.attachWindow tab w] <+: ops →
    before.countP (Operation.reportsTo tab) <
      ((new settings).emitted before).countP (Command.asksFor tab)

end Runs

/-- A tab floats, is docked before its window is open, and floats again. Then both windows are
reported. -/
def twoReports : List Operation := [
  .openTab "A" ⟨⟨1⟩, "p"⟩ true,
  .floatTab ⟨1⟩,
  .dockFloating ⟨1⟩ none,
  .floatTab ⟨1⟩,
  .attachWindow ⟨1⟩ ⟨"first"⟩,
  .attachWindow ⟨1⟩ ⟨"second"⟩]

/-- The first window is forgotten, although both windows were asked for and are new. Up to the
second report all is well. -/
theorem twoReports_forget : Fresh twoReports ∧ Answers .standard twoReports ∧
    (¬ ∀ before, before <+: twoReports → ∀ w ∈ delivered before, Accounted .standard before w) ∧
    ∀ before, before <+: twoReports.dropLast →
      ∀ w ∈ delivered before, Accounted .standard before w := by
  have hfresh : Fresh twoReports := by
    simp [Fresh, twoReports, Operation.reported?, Operation.named?]
  have hreports {before : List Operation} {tab : TabId} {w : Window}
      (h : before ++ [.attachWindow tab w] <+: twoReports) :
      tab = ⟨1⟩ ∧ (before = twoReports.take 4 ∨ before = twoReports.take 5) := by
    obtain ⟨rest, hrest⟩ := h
    have hop : twoReports[before.length]? = some (.attachWindow tab w) := by simp [← hrest]
    have htake : before = twoReports.take before.length := by
      rw [← hrest, List.append_assoc, List.take_left]
    generalize before.length = n at hop htake
    rcases n with _ | _ | _ | _ | _ | _ | n <;> cases hop
    · exact ⟨rfl, .inl htake⟩
    · exact ⟨rfl, .inr htake⟩
  refine ⟨hfresh, ?_, ?_, ?_⟩
  · intro before tab w h
    obtain ⟨rfl, rfl | rfl⟩ := hreports h
    · decide
    · decide
  · rw [run_accounted_iff .standard hfresh]
    intro hawaited
    have hnone := hawaited (twoReports.take 5) ⟨1⟩ ⟨"second"⟩ List.prefix_rfl
    cases hnone
  · refine (run_accounted_iff .standard (hfresh.sublist (List.dropLast_sublist _))).2 ?_
    intro before tab w h
    obtain ⟨rfl, rfl | rfl⟩ := hreports (h.trans (List.dropLast_prefix _))
    · rfl
    · have hlength := h.length_le
      simp [twoReports] at hlength

end Dock

end Docking
