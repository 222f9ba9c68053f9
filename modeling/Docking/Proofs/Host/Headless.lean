import Docking.Host
import Mathlib.Data.List.Nodup
import Mathlib.Data.List.Range

/-!
# The books of the headless host

The host without a screen names its windows by a counter and keeps the open ones in a list. It never
compares a new name with the old ones, and it looks for another front window only when the one that
was in front is closed. What comes of this is said over whole runs of requests, with any windows
named in them: what was asked and what was answered is written down, and the list of open windows,
the front window and the next answers are read off that record.

## Main definitions

* `HostRequest`, `WindowHost.serve`: a request, and what a host does with it.
* `Exchange`, `WindowHost.serveAll`: the record of a run of requests.
* `Exchange.opened`, `Exchange.closed`: the windows that were handed out, and those that were
  closed.
* `Headless.Accounts`: what the record says about the host.

## Main results

* `Headless.nameOf_injective`: a window that is opened has a new name.
* `Headless.Keeps.serve`: one request keeps the books in order.
* `Headless.serveAll_accounts`: so does every run of requests.
-/

namespace Docking

/-! ## Requests and their record -/

/-- A request to a window host. -/
inductive HostRequest where
  | create (plugin : String)
  | close (window : Window)
  | raise (window : Window)

/-- What a host does with a request: the answer, with the window if one was opened, and the host
that is left. -/
def WindowHost.serve {η : Type} [WindowHost η] (h : η) :
    HostRequest → Except HostError (Option Window) × η
  | .create plugin => ((WindowHost.create h plugin).map (Except.map some) id)
  | .close window => ((WindowHost.close h window).map (Except.map fun _ => none) id)
  | .raise window => ((WindowHost.raise h window).map (Except.map fun _ => none) id)

/-- A request and the answer to it. -/
structure Exchange where
  request : HostRequest
  answer : Except HostError (Option Window)

/-- A host serves several requests, one after another. The first result is the record. -/
def WindowHost.serveAll {η : Type} [WindowHost η] (h : η) (rs : List HostRequest) :
    List Exchange × η :=
  rs.foldl (fun (past, h) r => (past ++ [⟨r, (serve h r).1⟩], (serve h r).2)) ([], h)

namespace Exchange

/-- The window that was handed out. -/
def opened? : Exchange → Option Window
  | ⟨.create _, .ok window⟩ => window
  | _ => none

/-- The window that was closed. -/
def closed? : Exchange → Option Window
  | ⟨.close window, .ok _⟩ => some window
  | _ => none

/-- The windows that were handed out, in the order of the requests. -/
def opened (past : List Exchange) : List Window := past.filterMap opened?

/-- The windows that were closed, in the order of the requests. -/
def closed (past : List Exchange) : List Window := past.filterMap closed?

end Exchange

namespace Headless

open Exchange (opened closed)

/-! ## What the record says -/

/-- What the record of a run says about the host that it leaves. -/
structure Accounts (h : Headless) (past : List Exchange) : Prop where
  /-- No window is open twice. -/
  nodup : h.windows.Nodup
  /-- The open windows are those that were handed out and not closed, in the order of the
  requests. -/
  standing : h.windows = (opened past).filter fun w => w ∉ closed past
  /-- No window was handed out twice. -/
  unrepeated : (opened past).Nodup
  /-- There is a front window exactly if some window is open. -/
  fronted : h.front.isSome ↔ h.windows ≠ []
  /-- The front window is open. -/
  front : ∀ {w}, h.front = some w → w ∈ h.windows
  /-- A window can always be had. It was never handed out before, and comes in front. -/
  create : ∀ plugin, ∃ w g, WindowHost.create h plugin = (.ok w, g) ∧ w ∉ opened past ∧
    g.windows = h.windows ++ [w] ∧ g.front = some w
  /-- A window is not closed exactly if it is not open, and that is the reason that is given. -/
  close : ∀ w e, (WindowHost.close h w).1 = .error e ↔ w ∉ h.windows ∧ e = .unknownWindow w
  /-- Nor is it raised. -/
  raise : ∀ w e, (WindowHost.raise h w).1 = .error e ↔ w ∉ h.windows ∧ e = .unknownWindow w
  /-- A request that fails leaves the host as it was. -/
  unchanged : ∀ r e, (WindowHost.serve h r).1 = .error e → (WindowHost.serve h r).2 = h

/-! ## Names -/

theorem nameOf_injective {m n : Nat} (h : nameOf m = nameOf n) : m = n := by
  have htext : "window-" ++ m.repr = "window-" ++ n.repr := Window.mk.inj h
  rw [String.append_right_inj, Nat.repr_eq_ofList_toDigits, Nat.repr_eq_ofList_toDigits,
    String.ofList_inj] at htext
  rw [← Nat.ofDigitChars_ten_toDigits (n := m), htext, Nat.ofDigitChars_ten_toDigits]

/-- The names of the first windows, in the order in which they are given. -/
def names (count : Nat) : List Window := (List.range count).map fun n => nameOf (n + 1)

theorem names_succ (count : Nat) : names (count + 1) = names count ++ [nameOf (count + 1)] := by
  rw [names, List.range_succ, List.map_append]
  rfl

theorem nodup_names (count : Nat) : (names count).Nodup :=
  List.nodup_range.map fun _ _ h => Nat.succ.inj (nameOf_injective h)

theorem nameOf_notMem_names (count : Nat) : nameOf (count + 1) ∉ names count := by
  have hnodup := nodup_names (count + 1)
  rw [names_succ, ← List.concat_eq_append, List.nodup_concat] at hnodup
  exact hnodup.1

/-! ## One request -/

/-- The record explains the counter, the list and the front window. -/
structure Keeps (h : Headless) (past : List Exchange) : Prop where
  opened : opened past = names h.created
  closed : ∀ {w}, w ∈ closed past → w ∈ names h.created
  windows : h.windows = (names h.created).filter fun w => w ∉ Exchange.closed past
  fronted : h.front.isSome ↔ h.windows ≠ []
  front : ∀ {w}, h.front = some w → w ∈ h.windows

section Requests

variable {h : Headless} {past : List Exchange} {w : Window}

theorem close_of_mem (hw : w ∈ h.windows) :
    WindowHost.close h w = (.ok (), ⟨h.created, h.windows.erase w,
      if h.front = some w then (h.windows.erase w).getLast? else h.front⟩) := by
  simp only [WindowHost.close, Headless.close, if_pos hw]

theorem close_of_notMem (hw : w ∉ h.windows) :
    WindowHost.close h w = (.error (.unknownWindow w), h) := by
  simp only [WindowHost.close, Headless.close, if_neg hw]

theorem raise_of_mem (hw : w ∈ h.windows) :
    WindowHost.raise h w = (.ok (), { h with front := some w }) := by
  simp only [WindowHost.raise, Headless.raise, if_pos hw]

theorem raise_of_notMem (hw : w ∉ h.windows) :
    WindowHost.raise h w = (.error (.unknownWindow w), h) := by
  simp only [WindowHost.raise, Headless.raise, if_neg hw]

theorem keeps_new : new.Keeps [] where
  opened := rfl
  closed := fun hw => by cases hw
  windows := rfl
  fronted := by simp [new]
  front := fun hw => by cases hw

theorem Keeps.nodup (hk : h.Keeps past) : h.windows.Nodup := by
  rw [hk.windows]
  exact (nodup_names h.created).filter _

/-- An exchange that neither opens nor closes a window does not matter. -/
theorem Keeps.skip (hk : h.Keeps past) {x : Exchange} (hopened : x.opened? = none)
    (hclosed : x.closed? = none) {front : Option Window} (hfronted : front.isSome ↔ h.windows ≠ [])
    (hfront : ∀ {w}, front = some w → w ∈ h.windows) :
    Keeps { h with front } (past ++ [x]) := by
  have hclosed : Exchange.closed (past ++ [x]) = Exchange.closed past := by
    simp [Exchange.closed, hclosed]
  refine
    { opened := ?_
      closed := ?_
      windows := ?_
      fronted := hfronted
      front := hfront }
  · rw [← hk.opened]
    simp [Exchange.opened, hopened]
  · rw [hclosed]
    exact hk.closed
  · rw [hclosed]
    exact hk.windows

/-- A window is opened. Its name was not given before, so it was not closed before either. -/
theorem Keeps.create (hk : h.Keeps past) (plugin : String) :
    h.create.2.Keeps (past ++ [⟨.create plugin, .ok (some h.create.1)⟩]) := by
  have hclosed : Exchange.closed (past ++ [⟨.create plugin, .ok (some h.create.1)⟩]) =
      Exchange.closed past := by
    simp [Exchange.closed, Exchange.closed?]
  have hfresh : nameOf (h.created + 1) ∉ Exchange.closed past :=
    fun hmem => nameOf_notMem_names h.created (hk.closed hmem)
  refine
    { opened := ?_
      closed := ?_
      windows := ?_
      fronted := ?_
      front := ?_ }
  · show _ = names (h.created + 1)
    rw [names_succ, ← hk.opened]
    simp [Exchange.opened, Exchange.opened?, Headless.create]
  · intro w hw
    rw [hclosed] at hw
    show w ∈ names (h.created + 1)
    rw [names_succ]
    exact List.mem_append_left _ (hk.closed hw)
  · show h.windows ++ [nameOf (h.created + 1)] = (names (h.created + 1)).filter _
    rw [hclosed, names_succ, List.filter_append, ← hk.windows]
    simp [hfresh]
  · simp [Headless.create]
  · intro w hw
    obtain rfl := Option.some.inj hw
    exact List.mem_append_right _ (List.mem_singleton_self _)

/-- An open window is closed. If it was in front, another one comes in front unless it was the last
one. -/
theorem Keeps.close (hk : h.Keeps past) (hw : w ∈ h.windows) :
    (WindowHost.close h w).2.Keeps (past ++ [⟨.close w, .ok none⟩]) := by
  have hclosed :
      Exchange.closed (past ++ [⟨.close w, .ok none⟩]) = Exchange.closed past ++ [w] := by
    simp [Exchange.closed, Exchange.closed?]
  have hnames : w ∈ names h.created := by
    rw [hk.windows] at hw
    exact (List.mem_filter.1 hw).1
  -- another window than `w` that is in front stays there
  have hother : h.front ≠ some w → ∃ v, h.front = some v ∧ v ∈ h.windows.erase w := by
    intro hne
    obtain ⟨v, hv⟩ := Option.isSome_iff_exists.1 (hk.fronted.2 (List.ne_nil_of_mem hw))
    refine ⟨v, hv, (List.mem_erase_of_ne ?_).2 (hk.front hv)⟩
    rintro rfl
    exact hne hv
  rw [close_of_mem hw]
  refine
    { opened := ?_
      closed := ?_
      windows := ?_
      fronted := ?_
      front := ?_ }
  · show _ = names h.created
    rw [← hk.opened]
    simp [Exchange.opened, Exchange.opened?]
  · intro v hv
    rw [hclosed, List.mem_append, List.mem_singleton] at hv
    rcases hv with hv | rfl
    · exact hk.closed hv
    · exact hnames
  · show h.windows.erase w = (names h.created).filter _
    rw [hk.nodup.erase_eq_filter, hclosed, hk.windows, List.filter_filter]
    refine List.filter_congr fun v _ => Bool.eq_iff_iff.2 ?_
    simp [and_comm]
  · by_cases hfront : h.front = some w
    · rw [if_pos hfront]
      exact List.getLast?_isSome
    · obtain ⟨v, hv, hmem⟩ := hother hfront
      rw [if_neg hfront, hv]
      exact iff_of_true rfl (List.ne_nil_of_mem hmem)
  · intro v hv
    by_cases hfront : h.front = some w
    · simp only [if_pos hfront] at hv
      exact List.mem_of_getLast? hv
    · obtain ⟨u, hu, hmem⟩ := hother hfront
      simp only [if_neg hfront] at hv
      obtain rfl := Option.some.inj (hu.symm.trans hv)
      exact hmem

/-- One request keeps the books in order. -/
theorem Keeps.serve (hk : h.Keeps past) (r : HostRequest) :
    (WindowHost.serve h r).2.Keeps (past ++ [⟨r, (WindowHost.serve h r).1⟩]) := by
  cases r with
  | create plugin => exact hk.create plugin
  | close w =>
      by_cases hw : w ∈ h.windows
      · have hclose := hk.close hw
        rw [close_of_mem hw] at hclose
        simp only [WindowHost.serve, close_of_mem hw]
        exact hclose
      · simp only [WindowHost.serve, close_of_notMem hw]
        exact hk.skip rfl rfl hk.fronted hk.front
  | raise w =>
      by_cases hw : w ∈ h.windows
      · simp only [WindowHost.serve, raise_of_mem hw]
        refine hk.skip rfl rfl (iff_of_true rfl (List.ne_nil_of_mem hw)) fun hv => ?_
        exact Option.some.inj hv ▸ hw
      · simp only [WindowHost.serve, raise_of_notMem hw]
        exact hk.skip rfl rfl hk.fronted hk.front

/-! ## Runs of requests -/

theorem serveAll_keeps (rs : List HostRequest) :
    (WindowHost.serveAll new rs).2.Keeps (WindowHost.serveAll new rs).1 := by
  induction rs using List.reverseRecOn with
  | nil => exact keeps_new
  | append_singleton rs r ih =>
      simp only [WindowHost.serveAll, List.foldl_append, List.foldl_cons, List.foldl_nil]
      exact ih.serve r

theorem close_eq_error_iff {e : HostError} :
    (WindowHost.close h w).1 = .error e ↔ w ∉ h.windows ∧ e = .unknownWindow w := by
  by_cases hw : w ∈ h.windows
  · simp [close_of_mem hw, hw]
  · simp [close_of_notMem hw, hw, eq_comm]

theorem raise_eq_error_iff {e : HostError} :
    (WindowHost.raise h w).1 = .error e ↔ w ∉ h.windows ∧ e = .unknownWindow w := by
  by_cases hw : w ∈ h.windows
  · simp [raise_of_mem hw, hw]
  · simp [raise_of_notMem hw, hw, eq_comm]

/-- A request that fails leaves the host as it was. -/
theorem serve_of_error {r : HostRequest} {e : HostError}
    (he : (WindowHost.serve h r).1 = .error e) : (WindowHost.serve h r).2 = h := by
  cases r with
  | create plugin => cases he
  | close w =>
      by_cases hw : w ∈ h.windows
      · simp only [WindowHost.serve, close_of_mem hw] at he
        cases he
      · simp only [WindowHost.serve, close_of_notMem hw]
        rfl
  | raise w =>
      by_cases hw : w ∈ h.windows
      · simp only [WindowHost.serve, raise_of_mem hw] at he
        cases he
      · simp only [WindowHost.serve, raise_of_notMem hw]
        rfl

theorem Keeps.accounts (hk : h.Keeps past) : h.Accounts past where
  nodup := hk.nodup
  standing := by
    rw [hk.opened]
    exact hk.windows
  unrepeated := by
    rw [hk.opened]
    exact nodup_names h.created
  fronted := hk.fronted
  front := hk.front
  create plugin := by
    refine ⟨nameOf (h.created + 1), h.create.2, rfl, ?_, rfl, rfl⟩
    rw [hk.opened]
    exact nameOf_notMem_names h.created
  close _ _ := close_eq_error_iff
  raise _ _ := raise_eq_error_iff
  unchanged _ _ := serve_of_error

/-- Whatever windows are named in a run of requests, the open windows are at any time those that
were handed out and not closed, in that order, none of them twice; no window is handed out twice; a
window is in front exactly if one is open, and it is an open one; and requests for a window fail
exactly if it is not open, and change nothing then. -/
theorem serveAll_accounts (rs : List HostRequest) :
    (WindowHost.serveAll new rs).2.Accounts (WindowHost.serveAll new rs).1 :=
  (serveAll_keeps rs).accounts

end Requests

end Headless

end Docking
