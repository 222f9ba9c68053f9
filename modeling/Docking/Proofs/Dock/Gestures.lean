import Docking.Dock.Handle
import Docking.Proofs.Dock.Frame
import Docking.Proofs.Dock.Operation
import Mathlib.Data.List.Induction

/-!
# Gestures of the pointer

A pointer that is pressed on a tab, moved and released does one operation on the tab. Which one it
is can be read off the places where the pointer was seen: it is decided by whether it has ever left
the square around the press, and by what is under the last of them. A gesture that is given up does
nothing.

## Main results

* `Pressed.move`: what another move adds to a gesture.
* `gesture_amounts`: the operation that a whole gesture amounts to.
-/

namespace Docking

namespace Dock

/-- Whether the pointer has ever left the square around the place of the press. -/
def strays (d : Dock) (origin : Point) (moves : List Point) : Bool :=
  moves.any fun p => p.exceeds origin d.settings.threshold

/-- What is under the place where the pointer was seen last. -/
def aimed (d : Dock) (moves : List Point) : Option DropTarget :=
  (moves.getLast?.bind d.hitTest).map Prod.fst

/-- The operation that a gesture amounts to. -/
def amounts (d : Dock) (tab : TabId) (origin : Point) (moves : List Point) : Operation :=
  if d.strays origin moves then
    match d.aimed moves with
    | none => .floatTab tab
    | some target => .moveTab tab target
  else .activateTab tab

/-- What is known of a dock whose tab was pressed, when the pointer has been moved. Nothing but the
gesture and the queue is different from the dock before the press. -/
structure Pressed (d e : Dock) (tab : TabId) (origin : Point) (moves : List Point) : Prop where
  calm : e.calm = d.calm
  gesture : ∃ g, e.gesture = some g ∧ (g.kind = .tab ∧ g.tab = some tab) ∧
    g.dragging = d.strays origin moves ∧ g.origin = origin ∧
    g.target = if d.strays origin moves then d.aimed moves else none

section Gestures

variable {d e : Dock} {tab : TabId} {origin : Point} {moves : List Point}

private theorem view_of_calm (h : e.calm = d.calm) :
    e.hitTest = d.hitTest ∧ e.settings = d.settings := by
  have hview : ∀ d : Dock, d.calm.hitTest = d.hitTest ∧ d.calm.settings = d.settings :=
    fun _ => ⟨rfl, rfl⟩
  rw [← (hview e).1, ← (hview e).2, h]
  exact hview d

/-- A press begins a gesture, if none is going on. -/
theorem pressed_down (hidle : d.gesture = none) (htab : (d.panelOf? tab).isSome) :
    d.Pressed (d.pointerDown tab origin) tab origin [] := by
  obtain ⟨source, hsource⟩ := Option.isSome_iff_exists.1 htab
  have hdown : d.pointerDown tab origin =
      { d with gesture := some (.press tab source origin) } := by
    unfold pointerDown press
    rw [hidle, hsource]
  rw [hdown]
  exact ⟨rfl, .press tab source origin, rfl, ⟨rfl, rfl⟩, rfl, rfl, rfl⟩

/-- Another move lets the pointer stray or not, and a straying pointer aims at what is under it. -/
theorem Pressed.move (h : d.Pressed e tab origin moves) (p : Point) :
    d.Pressed (e.pointerMove p) tab origin (moves ++ [p]) := by
  obtain ⟨g, hgesture, ⟨hkind, htab⟩, hdragging, horigin, htarget⟩ := h.gesture
  obtain ⟨hhit, hsettings⟩ := view_of_calm h.calm
  have hstrays : (d.strays origin moves || p.exceeds g.origin e.settings.threshold) =
      d.strays origin (moves ++ [p]) := by
    rw [horigin, hsettings]
    simp [strays]
  unfold pointerMove
  simp only [hgesture, hkind, hdragging]
  rw [hstrays]
  cases hdrag : d.strays origin (moves ++ [p]) with
  | true =>
      have haimed : d.aimed (moves ++ [p]) = (e.hitTest p).map Prod.fst := by
        rw [hhit]
        simp [aimed]
      refine ⟨h.calm, _, rfl, ?_⟩
      rw [hdrag, haimed, if_pos rfl]
      cases e.hitTest p with
      | none => exact ⟨⟨rfl, htab⟩, rfl, horigin, rfl⟩
      | some found => exact ⟨⟨rfl, htab⟩, rfl, horigin, rfl⟩
  | false =>
      -- a pointer that has not strayed by now had not strayed before
      have hbefore : d.strays origin moves = false := by
        rw [hdrag, Bool.or_eq_false_iff] at hstrays
        exact hstrays.1
      rw [hbefore] at htarget
      refine ⟨h.calm, _, rfl, ⟨rfl, htab⟩, ?_, horigin, ?_⟩
      · rw [hdrag]
        exact hbefore
      · rw [hdrag]
        exact htarget

/-- A row of moves. -/
theorem pressed_moves (hidle : d.gesture = none) (htab : (d.panelOf? tab).isSome)
    (origin : Point) (moves : List Point) :
    d.Pressed (moves.foldl pointerMove (d.pointerDown tab origin)) tab origin moves := by
  induction moves using List.reverseRecOn with
  | nil => exact pressed_down hidle htab
  | append_singleton moves p ih =>
      rw [List.foldl_append]
      exact ih.move p

/-- A release does what the gesture amounts to. -/
theorem Pressed.up (h : d.Pressed e tab origin moves) :
    e.pointerUp.gesture = none ∧
      e.pointerUp.calm = (d.apply (d.amounts tab origin moves)).calm := by
  obtain ⟨g, hgesture, ⟨hkind, htab⟩, hdragging, -, htarget⟩ := h.gesture
  have hdropped : e.dropGesture.calm = d.calm := h.calm
  unfold pointerUp amounts
  simp only [hgesture, hkind, htab, hdragging]
  cases hdrag : d.strays origin moves with
  | false =>
      exact calm_congr (activateTab · tab) (fun d g cs => activateTab_amid d g cs tab) hdropped
  | true =>
      rw [hdrag, if_pos rfl] at htarget
      rw [htarget]
      cases d.aimed moves with
      | none => exact calm_congr (floatTab · tab) (fun d g cs => floatTab_amid d g cs tab) hdropped
      | some target =>
          exact calm_congr (fun d => (d.moveTab tab target).2)
            (fun d g cs => congrArg Prod.snd (moveTab_amid d g cs tab target)) hdropped

/-- A gesture that is given up has done nothing. -/
theorem Pressed.cancel (h : d.Pressed e tab origin moves) :
    e.cancelDrag.gesture = none ∧ e.cancelDrag.calm = d.calm := by
  obtain ⟨g, hgesture, -⟩ := h.gesture
  unfold cancelDrag
  rw [hgesture]
  exact ⟨rfl, h.calm⟩

/-- The pointer is pressed on a docked tab, moved from place to place, and released. Then no gesture
is going on, and apart from the queue the dock is what one operation makes of it: the tab is shown
if the pointer never strayed; or else it floats if nothing was under the pointer in the end, and is
moved to the panel and the zone that were. If the gesture is given up instead, the dock is the same
as before. -/
theorem gesture_amounts (hidle : d.gesture = none) (htab : (d.panelOf? tab).isSome)
    (origin : Point) (moves : List Point) (release : Point) :
    let held := (Message.pointerDown tab origin :: moves.map .pointerMove).foldl receive d
    (held.receive (.pointerUp release)).gesture = none ∧
      (held.receive (.pointerUp release)).calm =
        (d.apply (d.amounts tab origin moves)).calm ∧
      (held.receive .pointerCancel).gesture = none ∧
      (held.receive .pointerCancel).calm = d.calm := by
  have hheld : (Message.pointerDown tab origin :: moves.map .pointerMove).foldl receive d =
      moves.foldl pointerMove (d.pointerDown tab origin) := by
    rw [List.foldl_cons, List.foldl_map]
    rfl
  have h := pressed_moves hidle htab origin moves
  rw [hheld]
  exact ⟨h.up.1, h.up.2, h.cancel⟩

/-- Two tabs in one panel, which fills a square. -/
def twoTabs : Dock :=
  (new .standard).run [
    .setViewport (.atOrigin 100 100),
    .openTab "A" ⟨⟨1⟩, "p"⟩ true,
    .openTab "B" ⟨⟨2⟩, "p"⟩ true]

/-- The first of the two tabs is dragged to the right edge of the panel. -/
theorem dragToEdge_amounts :
    twoTabs.gesture = none ∧ (twoTabs.panelOf? ⟨1⟩).isSome ∧
      let held := [Message.pointerDown ⟨1⟩ ⟨10, 10⟩, .pointerMove ⟨12, 10⟩,
        .pointerMove ⟨95, 50⟩].foldl receive twoTabs
      (held.receive (.pointerUp ⟨95, 50⟩)).calm =
          (twoTabs.apply (.moveTab ⟨1⟩ ⟨⟨1⟩, .right⟩)).calm ∧
        (held.receive .pointerCancel).calm = twoTabs.calm := by
  have hidle : twoTabs.gesture = none := by rfl
  have htab : (twoTabs.panelOf? ⟨1⟩).isSome := by rfl
  have hstrays : twoTabs.strays ⟨10, 10⟩ [⟨12, 10⟩, ⟨95, 50⟩] = true := by decide +kernel
  have haimed : twoTabs.aimed [⟨12, 10⟩, ⟨95, 50⟩] = some ⟨⟨1⟩, .right⟩ := by decide +kernel
  have hamounts : twoTabs.amounts ⟨1⟩ ⟨10, 10⟩ [⟨12, 10⟩, ⟨95, 50⟩] =
      .moveTab ⟨1⟩ ⟨⟨1⟩, .right⟩ := by
    rw [amounts, hstrays, haimed, if_pos rfl]
  obtain ⟨-, hup, -, hcancel⟩ :=
    gesture_amounts hidle htab ⟨10, 10⟩ [⟨12, 10⟩, ⟨95, 50⟩] ⟨95, 50⟩
  rw [hamounts] at hup
  exact ⟨hidle, htab, hup, hcancel⟩

end Gestures

end Dock

end Docking
