import Docking.Proofs.Dock.Windows
import Docking.Proofs.Shell.Answers

/-!
# The tally of windows

The windows that are open at the host are to be those of the floating tabs, one for each. While the
shell is at work one window and one tab may be out of line: a window that its tab has left behind,
or that was opened and not yet reported, and a tab that waits for its window. Each change of the
dock and each answer of the host has one lemma here.

## Main definitions

* `Book.SameFloats`: two books in which the same tabs float.
* `Tally`: the windows and the tabs, with the window and the tab that are out of line.

## Main results

* `Tally.leave`, `Tally.take`: a tab leaves a window behind, or takes one.
* `Tally.close`, `Tally.create`, `Tally.refuse`: the host closes, opens or refuses a window.
-/

namespace Docking

namespace Book

/-- The same tabs float in two books, in the same windows. -/
def SameFloats (b b' : Book) : Prop :=
  ∀ tab window entry, b'.stays tab = some (.floating window entry) ↔
    b.stays tab = some (.floating window entry)

variable {b b' : Book} {tab : TabId}

theorem window?_eq_some_iff {w : Window} :
    b.window? tab = some w ↔ ∃ entry, b.stays tab = some (.floating (some w) entry) := by
  rw [window?]
  cases b.stays tab with
  | none => simp
  | some st => cases st <;> simp [Stay.window?]

theorem SameFloats.window?_eq (h : b.SameFloats b') (tab : TabId) :
    b'.window? tab = b.window? tab := by
  refine Option.ext fun w => ?_
  simp only [window?_eq_some_iff, h tab (some w)]

end Book

namespace Shell

/-- Why an error was recorded: the host refuses the plugin a window, or a window was named that was
not open. -/
def Explained (refused : List String) (strays : List Window) (e : HostError) : Prop :=
  (∃ plugin ∈ refused, e = .createFailed plugin "refused") ∨ ∃ w ∈ strays, e = .unknownWindow w

/-- The open windows are those of the tabs. There may be a window `spare` that no tab has, and a tab
`due` that floats without a window; other tabs do so only because the host refused them a window. -/
structure Tally (refused : List String) (strays : List Window) (s : Shell (Refusing Headless))
    (b : Book) (spare : Option Window) (due : Option TabId) : Prop where
  keeps : ∃ l, s.dock.Keeps l b
  idle : s.dock.outbox = []
  refuses : s.host.refused = refused
  nodup : s.windows.Nodup
  numbered : ∀ w ∈ s.windows, ∃ n ≤ s.host.host.created, w = Headless.nameOf n
  isOpen : ∀ {w}, w ∈ s.windows ↔ (∃ tab, b.window? tab = some w) ∨ spare = some w
  unheld : ∀ {w tab}, spare = some w → b.window? tab ≠ some w
  single : ∀ {w i j}, b.window? i = some w → b.window? j = some w → i = j
  windowless : ∀ {tab entry}, b.stays tab = some (.floating none entry) → due = some tab ∨
    entry.surface.plugin ∈ refused ∧ .createFailed entry.surface.plugin "refused" ∈ s.hostErrors
  errors : ∀ e ∈ s.hostErrors, Explained refused strays e

section Tally

variable {refused : List String} {strays : List Window} {s s' : Shell (Refusing Headless)}
  {b b' : Book} {spare : Option Window} {due : Option TabId} {tab : TabId} {w : Window}

/-- Only the windows, the errors and the floating tabs matter. -/
theorem Tally.congr (h : Tally refused strays s b spare due) (hkeeps : ∃ l, s'.dock.Keeps l b')
    (hidle : s'.dock.outbox = []) (hhost : s'.host = s.host)
    (herrors : s'.hostErrors = s.hostErrors) (hfloats : b.SameFloats b') :
    Tally refused strays s' b' spare due where
  keeps := hkeeps
  idle := hidle
  refuses := hhost ▸ h.refuses
  nodup := by
    rw [windows, hhost]
    exact h.nodup
  numbered := by
    rw [windows, hhost]
    exact h.numbered
  isOpen := by
    intro w
    simp only [hfloats.window?_eq]
    rw [windows, hhost]
    exact h.isOpen
  unheld := by
    intro w tab hspare
    rw [hfloats.window?_eq]
    exact h.unheld hspare
  single := by
    intro w i j hi hj
    rw [hfloats.window?_eq] at hi hj
    exact h.single hi hj
  windowless := by
    intro tab entry hst
    rw [herrors]
    exact h.windowless ((hfloats ..).1 hst)
  errors := herrors ▸ h.errors

/-- A tab leaves its window behind. -/
theorem Tally.leave (h : Tally refused strays s b none none) {new : Option Stay} {st : Stay}
    (hkeeps : ∃ l, s'.dock.Keeps l (b.set tab new)) (hidle : s'.dock.outbox = [])
    (hhost : s'.host = s.host) (herrors : s'.hostErrors = s.hostErrors)
    (hst : b.stays tab = some st) (hnew : new.bind Stay.window? = none)
    (hdue : ∀ entry, new = some (.floating none entry) → due = some tab) :
    Tally refused strays s' (b.set tab new) st.window? due := by
  have hwindow : b.window? tab = st.window? := by
    rw [Book.window?, hst]
    rfl
  have hkept : ∀ {w j}, (b.set tab new).window? j = some w ↔
      tab ≠ j ∧ b.window? j = some w := by
    intro w j
    rw [Book.window?_set, hnew]
    split
    · next htab => simp [htab]
    · next htab => simp [htab]
  refine
    { keeps := hkeeps
      idle := hidle
      refuses := hhost ▸ h.refuses
      nodup := ?_
      numbered := ?_
      isOpen := ?_
      unheld := ?_
      single := fun hi hj => h.single (hkept.1 hi).2 (hkept.1 hj).2
      windowless := ?_
      errors := herrors ▸ h.errors }
  · rw [windows, hhost]
    exact h.nodup
  · rw [windows, hhost]
    exact h.numbered
  · intro w
    rw [windows, hhost]
    refine h.isOpen.trans ?_
    simp only [hkept, reduceCtorEq, or_false]
    constructor
    · rintro ⟨j, hj⟩
      by_cases htab : tab = j
      · exact .inr (hwindow.symm.trans (htab ▸ hj))
      · exact .inl ⟨j, htab, hj⟩
    · rintro (⟨j, -, hj⟩ | hw)
      · exact ⟨j, hj⟩
      · exact ⟨tab, hwindow.trans hw⟩
  · intro w j hspare hj
    obtain ⟨htab, hj⟩ := hkept.1 hj
    exact htab (h.single (hwindow.trans hspare) hj)
  · intro j entry hj
    rw [Book.stays_set] at hj
    rw [herrors]
    split at hj
    · next htab => exact .inl (htab ▸ hdue entry hj)
    · exact .inr ((h.windowless hj).resolve_left (by simp))

/-- A tab takes the spare window. -/
theorem Tally.take (h : Tally refused strays s b (some w) (some tab)) {entry : TabEntry}
    (hkeeps : ∃ l, s'.dock.Keeps l (b.set tab (some (.floating (some w) entry))))
    (hidle : s'.dock.outbox = []) (hhost : s'.host = s.host)
    (herrors : s'.hostErrors = s.hostErrors) (hst : b.stays tab = some (.floating none entry)) :
    Tally refused strays s' (b.set tab (some (.floating (some w) entry))) none none := by
  have hnone : b.window? tab = none := by
    rw [Book.window?, hst]
    rfl
  have hwindow : ∀ {v j}, (b.set tab (some (.floating (some w) entry))).window? j = some v ↔
      tab = j ∧ w = v ∨ b.window? j = some v := by
    intro v j
    rw [Book.window?_set]
    split
    · next htab => simp [← htab, hnone, Stay.window?]
    · next htab => simp [htab]
  refine
    { keeps := hkeeps
      idle := hidle
      refuses := hhost ▸ h.refuses
      nodup := ?_
      numbered := ?_
      isOpen := ?_
      unheld := fun hspare => by cases hspare
      single := ?_
      windowless := ?_
      errors := herrors ▸ h.errors }
  · rw [windows, hhost]
    exact h.nodup
  · rw [windows, hhost]
    exact h.numbered
  · intro v
    rw [windows, hhost]
    refine h.isOpen.trans ?_
    simp only [hwindow, reduceCtorEq, or_false, Option.some.injEq]
    constructor
    · rintro (⟨j, hj⟩ | hv)
      · exact ⟨j, .inr hj⟩
      · exact ⟨tab, .inl ⟨rfl, hv⟩⟩
    · rintro ⟨j, ⟨-, hv⟩ | hj⟩
      · exact .inr hv
      · exact .inl ⟨j, hj⟩
  · intro v i j hi hj
    rcases hwindow.1 hi with ⟨rfl, rfl⟩ | hi
    · rcases hwindow.1 hj with ⟨rfl, -⟩ | hj
      · rfl
      · exact absurd hj (h.unheld rfl)
    · rcases hwindow.1 hj with ⟨rfl, rfl⟩ | hj
      · exact absurd hi (h.unheld rfl)
      · exact h.single hi hj
  · intro j x hj
    rw [Book.stays_set] at hj
    rw [herrors]
    split at hj
    · cases hj
    · next htab =>
        refine .inr ((h.windowless hj).resolve_left fun hdue => htab (Option.some.inj hdue))

/-! ## What the host does -/

/-- The spare window is closed. -/
theorem Tally.close (h : Tally refused strays s b (some w) due) (front : Option Window) :
    Tally refused strays (s.withHost s.host.host.created (s.windows.erase w) front) b none due :=
  { h with
    nodup := h.nodup.erase w
    numbered := fun v hv => h.numbered v (List.mem_of_mem_erase hv)
    isOpen := by
      intro v
      rw [withHost, windows, h.nodup.mem_erase_iff, h.isOpen]
      constructor
      · rintro ⟨hne, hv | hv⟩
        · exact .inl hv
        · exact absurd (Option.some.inj hv).symm hne
      · rintro (⟨j, hj⟩ | hv)
        · refine ⟨?_, .inl ⟨j, hj⟩⟩
          rintro rfl
          exact h.unheld rfl hj
        · cases hv
    unheld := fun hspare => by cases hspare }

/-- A window is opened, and there is no tab for it yet. -/
theorem Tally.create (h : Tally refused strays s b none due) (front : Option Window)
    (inbox : List (TabId × Window)) :
    Tally refused strays { s.withHost (s.host.host.created + 1)
        (s.windows ++ [Headless.nameOf (s.host.host.created + 1)]) front with inbox } b
      (some (Headless.nameOf (s.host.host.created + 1))) due := by
  have hnew : Headless.nameOf (s.host.host.created + 1) ∉ s.windows := by
    intro hmem
    obtain ⟨n, hn, hname⟩ := h.numbered _ hmem
    rw [← Headless.nameOf_injective hname] at hn
    exact Nat.not_succ_le_self _ hn
  refine { h with nodup := ?_, numbered := ?_, isOpen := ?_, unheld := ?_ }
  · rw [withHost, windows, ← List.concat_eq_append]
    exact .concat hnew h.nodup
  · intro v hv
    rcases List.mem_append.1 hv with hv | hv
    · obtain ⟨n, hn, hname⟩ := h.numbered v hv
      exact ⟨n, Nat.le_succ_of_le hn, hname⟩
    · exact ⟨_, Nat.le_refl _, List.mem_singleton.1 hv⟩
  · intro v
    rw [withHost, windows, List.mem_append, h.isOpen, List.mem_singleton, Option.some_inj,
      eq_comm (a := v)]
    simp
  · intro v tab hv hj
    exact hnew (Option.some.inj hv ▸ h.isOpen.2 (.inl ⟨tab, hj⟩))

/-- An error that can be explained does not matter. -/
theorem Tally.error (h : Tally refused strays s b spare due) {e : HostError}
    (he : Explained refused strays e) : Tally refused strays (s.withError e) b spare due :=
  { h with
    windowless := fun hst => (h.windowless hst).imp_right fun ⟨hplugin, hmem⟩ =>
      ⟨hplugin, List.mem_append_left _ hmem⟩
    errors := by
      intro e' he'
      rcases List.mem_append.1 he' with he' | he'
      · exact h.errors e' he'
      · exact List.mem_singleton.1 he' ▸ he }

/-- A window that was refused is not due any more. -/
theorem Tally.refuse (h : Tally refused strays s b spare (some tab)) {entry : TabEntry}
    (hst : b.stays tab = some (.floating none entry)) (hplugin : entry.surface.plugin ∈ refused) :
    Tally refused strays (s.withError (.createFailed entry.surface.plugin "refused")) b spare
      none := by
  have herror := h.error (e := .createFailed entry.surface.plugin "refused")
    (.inl ⟨_, hplugin, rfl⟩)
  refine { herror with windowless := ?_ }
  intro j x hj
  rcases herror.windowless hj with hdue | hrefused
  · obtain rfl := Option.some.inj hdue
    rw [hst] at hj
    cases hj
    exact .inr ⟨hplugin, List.mem_append_right _ (List.mem_singleton_self _)⟩
  · exact .inr hrefused

end Tally

end Shell

end Docking
