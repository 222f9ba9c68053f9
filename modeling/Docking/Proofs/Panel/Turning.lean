import Docking.Proofs.Panel.Standing
import Mathlib.Data.Int.ModEq
import Mathlib.Data.List.Perm.Subperm
import Mathlib.Data.Nat.ModEq
import Mathlib.Tactic.Ring

/-!
# Turning through the tabs of a panel

The next tab of a panel is the one to the right of the tab that is shown, and behind the last one
comes the first one again; the previous tab is found the other way round. The panel keeps the name
of the tab that is shown and looks for its place in the row at every turn. As no name occurs twice,
it always finds the place that it left the turn before, so the places are counted modulo the number
of tabs. A turn and a turn back cancel, and a full round shows every tab once and ends where it
began.

## Main definitions

* `Panel.showing`: the panel that shows the tab at a place.
* `Panel.turns`: several turns in one direction.

## Main results

* `cycle_showing`: one turn.
* `turns_eq`: any number of turns.
* `turns_back`: as many turns back.
* `perm_turns`: a full round.
-/

namespace Docking

namespace Panel

/-- The panel that shows the tab at a place in the row. -/
def showing (p : Panel) (i : Nat) : Panel := { p with active := p.tabIds[i]? }

/-- The panel after several turns in one direction. -/
def turns (p : Panel) (forward : Bool) (k : Nat) : Panel :=
  p.edits (List.replicate k (.cycle forward))

/-- How many places to the right a turn leads, around the end of the row. -/
def stride (p : Panel) (forward : Bool) : Nat := if forward then 1 else p.tabs.length - 1

section Turning

variable {p : Panel} {i : Nat}

theorem showing_eq_self (h : p.active = p.tabIds[i]?) : p.showing i = p := by
  rw [showing, ← h]

theorem turns_succ (p : Panel) (forward : Bool) (k : Nat) :
    p.turns forward (k + 1) = (p.turns forward k).edit (.cycle forward) := by
  rw [turns, List.replicate_succ', edits, List.foldl_append]
  rfl

/-- The place of the tab that is shown is found again by its name. -/
theorem activeIndex_showing (h : p.tabIds.Nodup) (hi : i < p.tabs.length) :
    (p.showing i).activeIndex = i := by
  have hid : i < p.tabIds.length := p.length_tabIds ▸ hi
  have hactive : (p.showing i).active = some p.tabIds[i] := List.getElem?_eq_getElem hid
  have hfind : p.tabs.findIdx? (fun t => t.id == p.tabIds[i]) = some i := by
    rw [List.findIdx?_eq_some_iff_getElem]
    refine ⟨hi, by simp [tabIds], fun j hj => ?_⟩
    have hjd : j < p.tabIds.length := Nat.lt_trans hj hid
    have hne : p.tabIds[j] ≠ p.tabIds[i] :=
      fun e => Nat.ne_of_lt hj ((List.Nodup.getElem_inj_iff h).1 e)
    simpa [tabIds] using hne
  rw [activeIndex, hactive]
  exact congrArg (Option.getD · 0) hfind

/-- One turn. -/
theorem cycle_showing (h : p.tabIds.Nodup) (hi : i < p.tabs.length) (forward : Bool) :
    ∃ tab, (p.showing i).cycle forward =
        (some tab, p.showing ((i + p.stride forward) % p.tabs.length)) ∧
      p.tabIds[(i + p.stride forward) % p.tabs.length]? = some tab := by
  let j := (i + p.stride forward) % p.tabs.length
  have hj : j < p.tabs.length := Nat.mod_lt _ (Nat.zero_lt_of_lt hi)
  have htab : p.tabIds[j]? = some p.tabs[j].id := by
    rw [tabIds, List.getElem?_map, List.getElem?_eq_getElem hj, Option.map_some]
  have hentry : (p.showing i).tabs[j]? = some p.tabs[j] := List.getElem?_eq_getElem hj
  have hplace : ((p.showing i).activeIndex +
      if forward then 1 else (p.showing i).tabs.length - 1) % (p.showing i).tabs.length = j := by
    rw [activeIndex_showing h hi]
    rfl
  have hshown : p.showing j = { p.showing i with active := some p.tabs[j].id } := by
    rw [showing, htab]
    rfl
  refine ⟨p.tabs[j].id, ?_, htab⟩
  rw [hshown]
  simp only [cycle, hplace, hentry]

/-- Any number of turns. -/
theorem turns_showing (h : p.tabIds.Nodup) (hi : i < p.tabs.length) (forward : Bool) (k : Nat) :
    (p.showing i).turns forward k = p.showing ((i + k * p.stride forward) % p.tabs.length) := by
  induction k with
  | zero =>
      rw [Nat.zero_mul, Nat.add_zero, Nat.mod_eq_of_lt hi]
      rfl
  | succ k ih =>
      have hplace : (i + k * p.stride forward) % p.tabs.length < p.tabs.length :=
        Nat.mod_lt _ (Nat.zero_lt_of_lt hi)
      obtain ⟨tab, hcycle, -⟩ := cycle_showing h hplace forward
      rw [turns_succ, ih, edit, hcycle, Nat.mod_add_mod, Nat.add_assoc,
        ← Nat.succ_mul]

theorem turns_eq (h : p.tabIds.Nodup) (hi : i < p.tabs.length) (hactive : p.active = p.tabIds[i]?)
    (forward : Bool) (k : Nat) :
    p.turns forward k = p.showing ((i + k * p.stride forward) % p.tabs.length) := by
  rw [← turns_showing h hi, showing_eq_self hactive]

/-- Behind any number of turns there is a next one. -/
theorem cycle_turns (h : p.tabIds.Nodup) (hi : i < p.tabs.length)
    (hactive : p.active = p.tabIds[i]?) (forward : Bool) (k : Nat) :
    ∃ tab, (p.turns forward k).cycle forward = (some tab, p.turns forward (k + 1)) ∧
      (p.turns forward (k + 1)).active = some tab := by
  have hplace : (i + k * p.stride forward) % p.tabs.length < p.tabs.length :=
    Nat.mod_lt _ (Nat.zero_lt_of_lt hi)
  obtain ⟨tab, hcycle, htab⟩ := cycle_showing h hplace forward
  rw [← turns_eq h hi hactive] at hcycle
  have hnext : p.turns forward (k + 1) =
      p.showing (((i + k * p.stride forward) % p.tabs.length + p.stride forward) %
        p.tabs.length) := by
    rw [turns_succ, edit, hcycle]
  exact ⟨tab, hnext ▸ hcycle, hnext ▸ htab⟩

/-- As many turns back lead to where the turns began. -/
theorem turns_back (h : p.tabIds.Nodup) (hi : i < p.tabs.length) (hactive : p.active = p.tabIds[i]?)
    (forward : Bool) (k : Nat) : (p.turns forward k).turns (!forward) k = p := by
  have hplace : (i + k * p.stride forward) % p.tabs.length < p.tabs.length :=
    Nat.mod_lt _ (Nat.zero_lt_of_lt hi)
  have hround : p.stride forward + p.stride (!forward) = p.tabs.length := by
    cases forward <;> simp only [stride, Bool.not_true, Bool.not_false, if_true,
      Bool.false_eq_true, if_false] <;> omega
  rw [turns_eq h hi hactive, turns_showing h hplace, Nat.mod_add_mod, Nat.add_assoc, ← Nat.mul_add,
    hround, Nat.add_mul_mod_self_right, Nat.mod_eq_of_lt hi, showing_eq_self hactive]

/-- Turning back counts places to the left. -/
theorem place_backward (hi : i < p.tabs.length) (k : Nat) :
    (i + k * p.stride false) % p.tabs.length = (((i : Int) - k) % p.tabs.length).toNat := by
  have hpos : 1 ≤ p.tabs.length := Nat.one_le_of_lt hi
  have hsum : ((i + k * p.stride false : Nat) : Int) = (i - k) + k * p.tabs.length := by
    rw [stride, if_neg Bool.false_ne_true]
    push_cast [hpos]
    ring
  rw [← Int.toNat_natCast ((i + k * p.stride false) % p.tabs.length), Int.natCast_emod, hsum,
    Int.add_mul_emod_self_right]

/-- The places of a full round are all places. -/
private theorem perm_places {n s : Nat} (hs : Nat.Coprime n s) (i : Nat) :
    ((List.range n).map fun k => (i + (k + 1) * s) % n).Perm (List.range n) := by
  have hinj : ∀ a ∈ List.range n, ∀ b ∈ List.range n,
      (i + (a + 1) * s) % n = (i + (b + 1) * s) % n → a = b := by
    intro a ha b hb hab
    have hmul : (a + 1) * s ≡ (b + 1) * s [MOD n] := Nat.ModEq.add_left_cancel' i hab
    have hsucc : a + 1 ≡ b + 1 [MOD n] := Nat.ModEq.cancel_right_of_coprime hs hmul
    exact (Nat.ModEq.add_right_cancel' 1 hsucc).eq_of_lt_of_lt (List.mem_range.1 ha)
      (List.mem_range.1 hb)
  have hnodup := List.nodup_range.map_on hinj
  have hsub : ((List.range n).map fun k => (i + (k + 1) * s) % n) ⊆ List.range n := by
    intro j hj
    obtain ⟨k, hk, rfl⟩ := List.mem_map.1 hj
    exact List.mem_range.2 (Nat.mod_lt _ (Nat.zero_lt_of_lt (List.mem_range.1 hk)))
  exact (List.subperm_of_subset hnodup hsub).perm_of_length_le (by simp)

/-- A full round shows every tab once. -/
theorem perm_turns (h : p.tabIds.Nodup) (hi : i < p.tabs.length) (hactive : p.active = p.tabIds[i]?)
    (forward : Bool) :
    ((List.range p.tabs.length).map fun k => (p.turns forward (k + 1)).active).Perm
      (p.tabIds.map some) := by
  have hcoprime : Nat.Coprime p.tabs.length (p.stride forward) := by
    cases forward with
    | true => exact Nat.coprime_one_right _
    | false => exact (Nat.coprime_self_sub_right (Nat.one_le_of_lt hi)).2 (Nat.coprime_one_right _)
  have hplaces := (perm_places hcoprime i).map fun j => p.tabIds[j]?
  have hall : (List.range p.tabs.length).map (fun j => p.tabIds[j]?) = p.tabIds.map some := by
    refine List.ext_getElem (by simp [length_tabIds]) fun j hj hj' => ?_
    rw [List.getElem_map, List.getElem_map, List.getElem_range]
    exact List.getElem?_eq_getElem _
  rw [List.map_map, hall] at hplaces
  refine (List.Perm.of_eq (List.map_congr_left fun k _ => ?_)).trans hplaces
  rw [turns_eq h hi hactive]
  rfl

/-- Whatever calls a panel has answered: if it has tabs, it shows the one at some place, and from
there any number of turns in either direction lead as many places to the right or to the left,
around the ends of the row, and leave the row as it is. None of them fails, as many turns back undo
them, and as many turns as there are tabs show each tab once and end where they began. -/
theorem edits_turn (first : Option TabEntry) (es : List Edit) :
    let p := (start first).edits es
    let n := p.tabs.length
    (p.tabs ≠ [] → ∃ i < n, p.active = p.tabIds[i]?) ∧
      ∀ i < n, p.active = p.tabIds[i]? →
        (∀ k, (p.turns true k).tabs = p.tabs ∧
          (p.turns true k).active = p.tabIds[(i + k) % n]? ∧
          (p.turns false k).tabs = p.tabs ∧
          (p.turns false k).active = p.tabIds[(((i : Int) - k) % n).toNat]?) ∧
        ∀ forward,
          (∀ k, ∃ tab, (p.turns forward k).cycle forward = (some tab, p.turns forward (k + 1)) ∧
            (p.turns forward (k + 1)).active = some tab) ∧
          (∀ k, (p.turns forward k).turns (!forward) k = p) ∧
          ((List.range n).map fun k => (p.turns forward (k + 1)).active).Perm
            (p.tabIds.map some) ∧
          p.turns forward n = p := by
  intro p n
  obtain ⟨hnodup, hfits, -⟩ := edits_follow first es
  refine ⟨fun hsome => ?_, fun i hi hactive => ?_⟩
  · obtain ⟨hmem, hnone⟩ := fits_iff.1 hfits
    obtain ⟨tab, htab⟩ := Option.ne_none_iff_exists'.1 fun hactive => hsome (hnone hactive)
    obtain ⟨i, hi, hat⟩ := List.getElem_of_mem (hmem tab htab)
    refine ⟨i, Nat.lt_of_lt_of_eq hi p.length_tabIds, ?_⟩
    rw [htab, List.getElem?_eq_getElem hi, hat]
  · have hturns := turns_eq hnodup hi hactive
    refine ⟨fun k => ⟨?_, ?_, ?_, ?_⟩, fun forward => ⟨cycle_turns hnodup hi hactive forward,
      turns_back hnodup hi hactive forward, perm_turns hnodup hi hactive forward, ?_⟩⟩
    · rw [hturns]
      rfl
    · rw [hturns, stride, if_pos rfl, Nat.mul_one]
      rfl
    · rw [hturns]
      rfl
    · rw [hturns, place_backward hi]
      rfl
    · rw [hturns, Nat.add_mul_mod_self_left, Nat.mod_eq_of_lt hi, showing_eq_self hactive]

/-- The second of three tabs is shown. Five turns on come round to the first one, and two turns back
to the last one. -/
theorem comeBack_turn :
    let p := (start none).edits comeBack
    p.tabIds = [⟨2⟩, ⟨3⟩, ⟨1⟩] ∧ p.active = p.tabIds[1]? ∧
      (p.turns true 5).active = some ⟨2⟩ ∧ (p.turns false 2).active = some ⟨1⟩ ∧
      (p.turns true 4).turns false 4 = p ∧ p.turns false 3 = p := by
  intro p
  obtain ⟨-, hplaces⟩ := edits_turn none comeBack
  obtain ⟨hcount, hboth⟩ := hplaces 1 (by decide) rfl
  obtain ⟨-, hon, -⟩ := hcount 5
  obtain ⟨-, -, -, hoff⟩ := hcount 2
  obtain ⟨-, hundone, -⟩ := hboth true
  obtain ⟨-, -, -, hround⟩ := hboth false
  exact ⟨rfl, rfl, hon, hoff, hundone 4, hround⟩

end Turning

end Panel

end Docking
