import Docking.Proofs.Layout.Tidy

/-!
# The tabs that stand in a panel

Tabs come and go, and a name that was taken out may come back. In all this a panel never holds two
tabs of one name, shows one of its tabs as long as it has any, and keeps its tabs in the order in
which they came. The last is said without a look at the panel: what has happened to the row of tabs
is written down as it happens, and the tabs that *stand* are those that came and have not left
since.

## Main definitions

* `Panel.Edit`, `Panel.edits`: calls of a panel, one after another.
* `Panel.events`: what they have done to the row of tabs.
* `Panel.standing`: the tabs that have come and not left since.
* `Panel.Answers`: what every call of a panel comes to.

## Main results

* `Follows.edit`: a call leaves the panel in step with what has happened.
* `edits_follow`: so does any number of calls.
-/

namespace Docking

namespace Panel

/-- A call of a panel. -/
inductive Edit where
  | add (entry : TabEntry) (activate : Bool)
  | remove (tab : TabId)
  | activate (tab : TabId)
  | cycle (forward : Bool)
  deriving DecidableEq

/-- What happens to a row of tabs. -/
inductive Event where
  | added (entry : TabEntry)
  | removed (tab : TabId)
  deriving DecidableEq

/-- The panel after a call. -/
def edit (p : Panel) : Edit → Panel
  | .add entry activate => (p.addTab entry activate).2
  | .remove tab => (p.removeTab tab).2
  | .activate tab => (p.activate tab).2
  | .cycle forward => (p.cycle forward).2

/-- What a call does to the row of tabs, if it does not fail. -/
def event? (p : Panel) : Edit → Option Event
  | .add entry activate =>
    match (p.addTab entry activate).1 with
    | .ok () => some (.added entry)
    | .error _ => none
  | .remove tab => (p.removeTab tab).1.map fun _ => .removed tab
  | .activate _ | .cycle _ => none

/-- The panel after several calls. -/
def edits (p : Panel) (es : List Edit) : Panel := es.foldl edit p

/-- What several calls do to the row of tabs, the earliest first. -/
def events (p : Panel) : List Edit → List Event
  | [] => []
  | e :: es => (p.event? e).toList ++ (p.edit e).events es

/-- The panel that a run of calls begins with: one tab, or none. -/
def start (first : Option TabEntry) : Panel := first.elim empty single

/-- The tabs that have come and not left since, in the order in which they came. -/
def standing : List Event → List TabEntry
  | [] => []
  | .added entry :: later =>
    if .removed entry.id ∈ later then standing later else entry :: standing later
  | .removed _ :: later => standing later

theorem standing_added (past : List Event) (entry : TabEntry) :
    standing (past ++ [.added entry]) = standing past ++ [entry] := by
  induction past with
  | nil => rfl
  | cons event past ih =>
      cases event with
      | removed tab => exact ih
      | added first =>
          simp only [List.cons_append, standing, ih, List.mem_append, List.mem_singleton,
            reduceCtorEq, or_false]
          split <;> rfl

theorem standing_removed (past : List Event) (tab : TabId) :
    standing (past ++ [.removed tab]) = (standing past).filter fun t => t.id ≠ tab := by
  induction past with
  | nil => rfl
  | cons event past ih =>
      cases event with
      | removed other => exact ih
      | added first =>
          simp only [List.cons_append, standing, ih, List.mem_append, List.mem_singleton,
            Event.removed.injEq]
          by_cases hgone : .removed first.id ∈ past
          · rw [if_pos (.inl hgone), if_pos hgone]
          · rw [if_neg hgone]
            by_cases htab : first.id = tab
            · rw [if_pos (.inr htab), List.filter_cons_of_neg (by simpa using htab)]
            · rw [if_neg (not_or.2 ⟨hgone, htab⟩), List.filter_cons_of_pos (by simpa using htab)]

/-- A panel is in step with what has happened to its row of tabs. -/
structure Follows (p : Panel) (past : List Event) : Prop where
  nodup : p.tabIds.Nodup
  fits : p.Fits
  tabs : p.tabs = standing past

/-- What every call of a panel comes to. -/
structure Answers (p : Panel) : Prop where
  /-- A tab whose name is taken is handed back as it is, and the panel stays as it is. -/
  taken : ∀ entry activate, entry.id ∈ p.tabIds →
    p.addTab entry activate = (.error entry, p) ∧ p.edit (.add entry activate) = p
  /-- Any other tab goes to the end of the row. -/
  added : ∀ entry activate, entry.id ∉ p.tabIds →
    p.addTab entry activate = (.ok (), p.push entry activate)
  /-- A tab that is not there can neither be taken out nor be shown. -/
  absent : ∀ tab, tab ∉ p.tabIds → p.removeTab tab = (none, p) ∧ p.edit (.remove tab) = p ∧
    p.activate tab = (false, p) ∧ p.edit (.activate tab) = p
  /-- A tab that is taken out leaves the others in their order. The first of them is shown if it was
  shown itself. -/
  removed : ∀ tab ∈ p.tabIds, ∃ entry q, p.removeTab tab = (some entry, q) ∧ entry ∈ p.tabs ∧
    entry.id = tab ∧ q.tabs = (p.tabs.filter fun t => t.id ≠ tab) ∧
    (p.active = some tab → q.active = q.tabIds.head?) ∧ (p.active ≠ some tab → q.active = p.active)
  activated : ∀ tab ∈ p.tabIds, p.activate tab = (true, { p with active := some tab })
  /-- Where there is no tab, there is no next one. -/
  bare : p.tabs = [] → ∀ forward, p.cycle forward = (none, p)

section Standing

variable {p : Panel} {past : List Event} {entry : TabEntry} {tab : TabId}

/-! ## Calls that fail -/

theorem addTab_of_mem (h : entry.id ∈ p.tabIds) (activate : Bool) :
    p.addTab entry activate = (.error entry, p) :=
  if_pos (contains_iff.2 h)

theorem removeTab_of_notMem (h : tab ∉ p.tabIds) : p.removeTab tab = (none, p) := by
  have hnone : p.tab? tab = none := by
    refine List.find?_eq_none.2 fun t ht => ?_
    simp only [beq_iff_eq]
    rintro rfl
    exact h (List.mem_map_of_mem ht)
  simp only [removeTab, hnone]

theorem activate_of_notMem (h : tab ∉ p.tabIds) : p.activate tab = (false, p) :=
  if_neg fun hcontains => h (contains_iff.1 hcontains)

theorem cycle_of_nil (h : p.tabs = []) (forward : Bool) : p.cycle forward = (none, p) := by
  simp only [cycle, h, List.getElem?_nil]

/-! ## Runs of calls -/

theorem Follows.of_tabs {q : Panel} (h : p.Follows past) (hq : q.Fits ∧ q.tabs = p.tabs) :
    q.Follows past where
  nodup := by
    rw [tabIds, hq.2]
    exact h.nodup
  fits := hq.1
  tabs := hq.2.trans h.tabs

/-- A call leaves the panel in step with what has happened. -/
theorem Follows.edit (h : p.Follows past) (e : Edit) :
    (p.edit e).Follows (past ++ (p.event? e).toList) := by
  cases e with
  | add entry activate =>
      by_cases hmem : entry.id ∈ p.tabIds
      · simp only [Panel.edit, event?, addTab_of_mem hmem, Option.toList_none, List.append_nil]
        exact h
      · simp only [Panel.edit, event?, addTab_eq hmem, Option.toList_some]
        refine ⟨?_, fits_push h.fits entry activate, ?_⟩
        · rw [tabIds_push, ← List.concat_eq_append]
          exact h.nodup.concat hmem
        · rw [standing_added, ← h.tabs]
          rfl
  | remove tab =>
      by_cases hmem : tab ∈ p.tabIds
      · obtain ⟨entry, -, -, hremove⟩ := removeTab_eq hmem h.nodup
        simp only [Panel.edit, event?, hremove, Option.map_some, Option.toList_some]
        refine ⟨?_, fits_without h.fits tab, ?_⟩
        · rw [tabIds_without]
          exact h.nodup.filter _
        · rw [standing_removed, ← h.tabs]
          rfl
      · simp only [Panel.edit, event?, removeTab_of_notMem hmem, Option.map_none,
          Option.toList_none, List.append_nil]
        exact h
  | activate tab =>
      simp only [Panel.edit, event?, Option.toList_none, List.append_nil]
      cases hshow : p.activate tab with
      | mk shown q =>
          cases shown with
          | false => exact eq_of_activate_false hshow ▸ h
          | true => exact h.of_tabs (fits_activate hshow)
  | cycle forward =>
      simp only [Panel.edit, event?, Option.toList_none, List.append_nil]
      cases hcycle : p.cycle forward with
      | mk shown q =>
          cases shown with
          | none => exact eq_of_cycle_none hcycle ▸ h
          | some tab => exact h.of_tabs (fits_cycle hcycle)

theorem Follows.edits (h : p.Follows past) (es : List Edit) :
    (p.edits es).Follows (past ++ p.events es) := by
  induction es generalizing p past with
  | nil =>
      rw [events, List.append_nil]
      exact h
  | cons e es ih =>
      have hrest := ih (h.edit e)
      rw [List.append_assoc] at hrest
      exact hrest

theorem start_follows (first : Option TabEntry) :
    (start first).Follows (first.toList.map .added) := by
  cases first with
  | none => exact ⟨List.nodup_nil, fits_empty, rfl⟩
  | some entry => exact ⟨List.nodup_singleton _, fits_single entry, rfl⟩

/-- Any number of calls leave a panel in step with what has happened. -/
theorem edits_follow (first : Option TabEntry) (es : List Edit) :
    ((start first).edits es).Follows
      (first.toList.map .added ++ (start first).events es) :=
  (start_follows first).edits es

theorem answers_of_nodup (h : p.tabIds.Nodup) : p.Answers where
  taken entry activate hmem := by
    have hadd := addTab_of_mem hmem activate
    exact ⟨hadd, by simp only [edit, hadd]⟩
  added entry activate hmem := addTab_eq hmem activate
  absent tab hmem := by
    have hremove := removeTab_of_notMem hmem
    have hshow := activate_of_notMem hmem
    refine ⟨hremove, ?_, hshow, ?_⟩
    · simp only [edit, hremove]
    · simp only [edit, hshow]
  removed tab hmem := by
    obtain ⟨entry, hentry, hid, hremove⟩ := removeTab_eq hmem h
    refine ⟨entry, p.without tab, hremove, hentry, hid, rfl, fun hactive => ?_, fun hactive => ?_⟩
    · rw [tabIds, List.head?_map]
      exact if_pos hactive
    · exact if_neg hactive
  activated tab hmem := activate_eq hmem
  bare hnil := cycle_of_nil hnil

/-- Whatever calls a panel with at most one tab has answered, its tabs have different names, it
shows one of them as long as there are any, and they are those that have come and not left since, in
the order in which they came. Calls that fail change nothing. -/
theorem edits_stand (first : Option TabEntry) (es : List Edit) :
    let p := (start first).edits es
    p.tabIds.Nodup ∧ (∀ tab, p.active = some tab → tab ∈ p.tabIds) ∧
      (p.active = none ↔ p.tabs = []) ∧
      p.tabs = standing (first.toList.map .added ++ (start first).events es) ∧ p.Answers := by
  intro p
  obtain ⟨hnodup, hfits, htabs⟩ := edits_follow first es
  obtain ⟨hmem, hnone⟩ := fits_iff.1 hfits
  refine ⟨hnodup, hmem, ⟨hnone, fun hempty => ?_⟩, htabs, answers_of_nodup hnodup⟩
  cases hactive : p.active with
  | none => rfl
  | some tab =>
      have htab := hmem tab hactive
      rw [tabIds, hempty] at htab
      cases htab

/-- Three tabs come, the first one leaves and comes back under another title. -/
def comeBack : List Edit := [
  .add ⟨⟨1⟩, "A", ⟨⟨1⟩, "p"⟩⟩ false,
  .add ⟨⟨2⟩, "B", ⟨⟨2⟩, "p"⟩⟩ false,
  .add ⟨⟨3⟩, "C", ⟨⟨3⟩, "p"⟩⟩ true,
  .remove ⟨1⟩,
  .add ⟨⟨1⟩, "D", ⟨⟨4⟩, "p"⟩⟩ false]

/-- The tab that came back is the last one now. The one that is shown gives way to the first one
when it leaves. -/
theorem comeBack_stand :
    let p := (start none).edits comeBack
    let back : TabEntry := ⟨⟨1⟩, "D", ⟨⟨4⟩, "p"⟩⟩
    p.tabs = [⟨⟨2⟩, "B", ⟨⟨2⟩, "p"⟩⟩, ⟨⟨3⟩, "C", ⟨⟨3⟩, "p"⟩⟩, back] ∧
      p.addTab back true = (.error back, p) ∧ p.activate ⟨4⟩ = (false, p) ∧
      ∃ entry q, p.removeTab ⟨3⟩ = (some entry, q) ∧ p.active = some ⟨3⟩ ∧
        q.active = some ⟨2⟩ := by
  intro p back
  obtain ⟨-, -, -, htabs, hanswers⟩ := edits_stand none comeBack
  obtain ⟨entry, q, hremove, -, -, hleft, hfirst, -⟩ := hanswers.removed ⟨3⟩ (by decide)
  refine ⟨htabs, (hanswers.taken back true (by decide)).1, (hanswers.absent ⟨4⟩ (by decide)).2.2.1,
    entry, q, hremove, rfl, ?_⟩
  rw [hfirst rfl, tabIds, hleft]
  rfl

end Standing

end Panel

end Docking
