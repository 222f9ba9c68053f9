import Docking.Proofs.Geometry.Rounding

/-!
# Sums, equal floats and halves

What rounding means for the few operations that areas are made of. To add a float that is not
positive never leads to anything larger, with infinite and undefined floats included; equal floats
can be exchanged in a sum, where zeros of different sign are equal; and a half is exact unless it is
too small for that.

## Main definitions

* `Agree`: two floats are the same or equal.
* `HalvesEvenly`: a half, computed in either way, and what remains beside it are equal.

## Main results

* `not_lt_add_of_nonpos`: nothing is above a float and below its sum with one that is not positive.
* `Agree.add_left`: equal summands lead to equal sums.
* `halvesEvenly_of_le`: zero and all numbers that are not tiny halve evenly.
-/

namespace Docking

open Float.Model (Format UnpackedFloat totalExponent)
open Float.Model.UnpackedFloat

/-! ## Sums -/

/-- A float that is a number and not above a given one, or that is infinite and negative. -/
def AtMost (u : UnpackedFloat) (a : ℚ) : Prop :=
  u = .infinity .negative ∨ ∃ c ≤ a, unpackedNumber? u = some c

theorem AtMost.ne_notANumber {u : UnpackedFloat} {a : ℚ} (h : AtMost u a) : u ≠ .notANumber := by
  rintro rfl
  rcases h with h | ⟨_, -, h⟩ <;> cases h

/-- The form in which a float is stored. -/
def stored (u : UnpackedFloat) : UnpackedFloat := unpack .binary32 (pack .binary32 u)

theorem stored_unpack (b : BitVec Format.binary32.numBits) :
    stored (unpack .binary32 b) = unpack .binary32 b := by
  have hstored := isStored_unpack b
  cases h : unpack .binary32 b with
  | notANumber => rfl
  | infinity s | zero s => cases s <;> rfl
  | finite s m e hm =>
      rw [h] at hstored
      exact unpack_pack_of_le s hm hstored (exponent_le_of_unpack h)

private theorem apply_negative (n : ℕ) (f : ℤ) :
    ((Sign.negative.apply n : ℤ) : ℚ) * 2 ^ f = -((n : ℚ) * 2 ^ f) := by
  show ((-n : ℤ) : ℚ) * 2 ^ f = _
  push_cast
  ring

theorem normalize_apply (s : Sign) {m : ℕ} (hm : 0 < m) (t : ℤ) :
    UnpackedFloat.normalize .binary32 (s.apply m) t .positive =
      UnpackedFloat.round .binary32 s m t := by
  cases s with
  | positive =>
      have hpos : (0 : ℤ) < m := by omega
      show UnpackedFloat.normalize .binary32 m t .positive = _
      rw [UnpackedFloat.normalize, compare_gt_iff_gt.2 hpos]
      rfl
  | negative =>
      have hneg : -(m : ℤ) < 0 := by omega
      show UnpackedFloat.normalize .binary32 (-m) t .positive = _
      rw [UnpackedFloat.normalize, compare_lt_iff_lt.2 hneg, neg_neg]
      rfl

/-- A number that is not above a stored one is not above it once it is rounded. -/
theorem atMost_normalize {s : Sign} {m : ℕ} {e M t : ℤ} (h : Stored m e) (he : e ≤ 104)
    (hle : (M : ℚ) * 2 ^ t ≤ (s.apply m : ℤ) * 2 ^ e) :
    AtMost (stored (UnpackedFloat.normalize .binary32 M t .positive))
      ((s.apply m : ℤ) * 2 ^ e) := by
  have hvalue : (0 : ℚ) ≤ (m : ℚ) * 2 ^ e := by positivity
  rcases lt_trichotomy M 0 with hM | rfl | hM
  · obtain ⟨n, rfl⟩ : ∃ n : ℕ, M = -n := ⟨(-M).toNat, by omega⟩
    have hn : 0 < n := by omega
    have hround : UnpackedFloat.normalize .binary32 (-n) t .positive = _ :=
      normalize_apply .negative hn t
    obtain ⟨r, f, hrounds, hparts⟩ := exists_round .negative hn t
    rw [hround, hparts]
    rcases unpack_pack_ofParts .negative hrounds.stored with ⟨-, hnumber⟩ | ⟨-, hinfinite⟩
    · refine .inr ⟨_, ?_, hnumber⟩
      rw [apply_negative]
      cases s with
      | positive => exact (neg_nonpos.2 (by positivity)).trans hvalue
      | negative =>
          rw [apply_negative] at hle ⊢
          refine neg_le_neg (hrounds.ge_of_ge h ?_)
          push_cast at hle
          linarith
    · exact .inl hinfinite
  · have hzero : UnpackedFloat.normalize .binary32 0 t .positive = .zero .positive := by
      rw [UnpackedFloat.normalize, compare_eq_iff_eq.2 rfl]
    rw [hzero]
    refine .inr ⟨0, ?_, rfl⟩
    rwa [Int.cast_zero, zero_mul] at hle
  · obtain ⟨n, rfl⟩ : ∃ n : ℕ, M = n := ⟨M.toNat, by omega⟩
    have hn : 0 < n := by omega
    have hsum : (0 : ℚ) < (n : ℚ) * 2 ^ t := mul_pos (by exact_mod_cast hM) (by positivity)
    have hround : UnpackedFloat.normalize .binary32 n t .positive = _ :=
      normalize_apply .positive hn t
    obtain ⟨r, f, hrounds, hparts⟩ := exists_round .positive hn t
    rw [hround, hparts]
    cases s with
    | negative =>
        rw [apply_negative] at hle
        push_cast at hle
        linarith
    | positive =>
        have hbound := hrounds.le_of_le h hle
        rcases unpack_pack_ofParts .positive hrounds.stored with ⟨-, hnumber⟩ | ⟨hlarge, -⟩
        · exact .inr ⟨_, hbound, hnumber⟩
        · -- what is not above a number is not too large
          exact absurd hbound (h.lt_of_exponent_lt hrounds.stored (by omega)).not_ge

/-- The number for which a float with a decreased exponent stands. -/
private theorem apply_shiftLeft (s : Sign) (m : ℕ) {e t : ℤ} (h : t ≤ e) :
    ((s.apply (m <<< (e - t).toNat : ℕ) : ℤ) : ℚ) * 2 ^ t = (s.apply m : ℤ) * 2 ^ e := by
  have hvalue := shiftLeft_value m e (e - t).toNat
  rw [Int.toNat_of_nonneg (sub_nonneg.2 h), sub_sub_cancel] at hvalue
  cases s with
  | positive => exact hvalue
  | negative => rw [apply_negative, apply_negative, hvalue]

/-- Nothing larger comes of adding a float that is not positive. -/
theorem atMost_add {b c : BitVec Format.binary32.numBits} {a : ℚ}
    (ha : unpackedNumber? (unpack .binary32 b) = some a) (hc : AtMost (unpack .binary32 c) 0) :
    AtMost (stored (add .binary32 (unpack .binary32 b) (unpack .binary32 c))) a := by
  have hb := isStored_unpack b
  have hsame := stored_unpack b
  have hsame' := stored_unpack c
  cases hu : unpack .binary32 b with
  | infinity s | notANumber => rw [hu] at ha; cases ha
  | zero s =>
      rw [hu] at ha
      cases ha
      cases hv : unpack .binary32 c with
      | notANumber => exact absurd hv hc.ne_notANumber
      | zero s' => exact .inr ⟨0, le_rfl, by cases s <;> cases s' <;> rfl⟩
      | infinity s' | finite s' n f hn =>
          rw [hv] at hc hsame'
          exact hsame'.symm ▸ hc
  | finite s m e hm =>
      rw [hu] at ha hb hsame
      cases ha
      cases hv : unpack .binary32 c with
      | notANumber => exact absurd hv hc.ne_notANumber
      | infinity s' =>
          rw [hv] at hc hsame'
          rcases hc with hc | ⟨_, -, hc⟩ <;> cases hc
          exact .inl hsame'
      | zero s' => exact .inr ⟨_, le_rfl, congrArg unpackedNumber? hsame⟩
      | finite s' n f hn =>
          rw [hv] at hc
          rcases hc with hc | ⟨_, hle, hc⟩ <;> cases hc
          refine atMost_normalize hb (exponent_le_of_unpack hu) ?_
          rw [Int.cast_add, add_mul, apply_shiftLeft s m (min_le_left e f),
            apply_shiftLeft s' n (min_le_right e f)]
          linarith

section Order

variable {x y w q : Float32}

theorem unpack_add (x y : Float32) :
    (x + y).toModel.unpack = stored (add .binary32 x.toModel.unpack y.toModel.unpack) := rfl

/-- What is not positive is a number that is not positive, or infinite and negative. -/
theorem atMost_zero (h : w ≤ 0) : AtMost w.toModel.unpack 0 := by
  have hzero : number? 0 = some 0 := rfl
  have hle : w.toModel.unpack.le (0 : Float32).toModel.unpack = true := decide_eq_true_iff.1 h
  cases hw : w.toModel.unpack with
  | notANumber => rw [hw] at hle; cases hle
  | infinity s =>
      cases s with
      | positive => rw [hw] at hle; cases hle
      | negative => exact .inl rfl
  | zero s => exact .inr ⟨0, le_rfl, rfl⟩
  | finite s m e hm =>
      have hnumber : number? w = some (((s.apply m : ℤ) : ℚ) * 2 ^ e) := congrArg unpackedNumber? hw
      exact .inr ⟨_, (le_iff hnumber hzero).1 h, rfl⟩

/-- What is above nothing is infinite and negative. -/
theorem not_lt_of_infinite (h : y.toModel.unpack = .infinity .negative) : ¬ q < y := by
  intro hlt
  have hlt : q.toModel.unpack.lt y.toModel.unpack = true := decide_eq_true_iff.1 hlt
  rw [h] at hlt
  cases hq : q.toModel.unpack with
  | notANumber | zero s => rw [hq] at hlt; cases hlt
  | infinity s | finite s m e hm => rw [hq] at hlt; cases s <;> cases hlt

/-- Nothing is above an infinite float. -/
theorem not_lt_of_ge_infinite (h : x.toModel.unpack = .infinity .positive) (hxq : x ≤ q) :
    ¬ q < y := by
  intro hlt
  have hle : x.toModel.unpack.le q.toModel.unpack = true := decide_eq_true_iff.1 hxq
  have hlt : q.toModel.unpack.lt y.toModel.unpack = true := decide_eq_true_iff.1 hlt
  rw [h] at hle
  cases hq : q.toModel.unpack with
  | notANumber | zero s | finite s m e hm => rw [hq] at hle; cases hle
  | infinity s =>
      rw [hq] at hle hlt
      cases s with
      | negative => cases hle
      | positive =>
          cases hy : y.toModel.unpack with
          | notANumber | zero s | finite s m e hm => rw [hy] at hlt; cases hlt
          | infinity s => rw [hy] at hlt; cases s <;> cases hlt

/-- Infinity stays infinite when something that is not positive is added. -/
theorem infinite_add (h : x.toModel.unpack = .infinity .negative)
    (hw : AtMost w.toModel.unpack 0) : (x + w).toModel.unpack = .infinity .negative := by
  have hadd : add .binary32 (.infinity .negative) w.toModel.unpack = .infinity .negative := by
    rcases hw with hw | ⟨c, -, hw⟩
    · rw [hw]
      rfl
    · cases hu : w.toModel.unpack with
      | notANumber | infinity s => rw [hu] at hw; cases hw
      | zero s | finite s m e hm => rfl
  rw [unpack_add, h, hadd]
  rfl

/-- Nothing is above a number and below its sum with what is not positive. -/
theorem not_lt_add_of_number {a : ℚ} (ha : number? x = some a) (hw : w ≤ 0) (hxq : x ≤ q) :
    ¬ q < x + w := by
  intro hlt
  rcases atMost_add ha (atMost_zero hw) with hinfinite | ⟨c, hca, hc⟩
  · exact not_lt_of_infinite (y := x + w) hinfinite hlt
  · have hc : number? (x + w) = some c := hc
    obtain ⟨b, hb⟩ := exists_number_of_between ha hc hxq hlt
    exact (((le_iff ha hb).1 hxq).trans_lt ((lt_iff hb hc).1 hlt)).not_ge hca

/-- Nothing is above a float and below its sum with one that is not positive. -/
theorem not_lt_add_of_nonpos (hw : w ≤ 0) (hxq : x ≤ q) : ¬ q < x + w := by
  cases hx : x.toModel.unpack with
  | notANumber =>
      have hle : x.toModel.unpack.le q.toModel.unpack = true := decide_eq_true_iff.1 hxq
      rw [hx] at hle
      cases hle
  | infinity s =>
      cases s with
      | positive => exact not_lt_of_ge_infinite hx hxq
      | negative => exact not_lt_of_infinite (infinite_add hx (atMost_zero hw))
  | zero s => exact not_lt_add_of_number (congrArg unpackedNumber? hx) hw hxq
  | finite s m e hm => exact not_lt_add_of_number (congrArg unpackedNumber? hx) hw hxq

end Order

/-! ## Equal floats -/

section Equal

variable {x y w : Float32}

/-- Two floats are the same, or they are equal as zeros of different sign are. -/
def Agree (x y : Float32) : Prop := x = y ∨ (x == y) = true

theorem Agree.refl (x : Float32) : Agree x x := .inl rfl

/-- What is compared as equal is the same unless it is zero. -/
theorem unpack_eq_of_beq {u v : UnpackedFloat} (h : u.compare v = some .eq) :
    u = v ∨ ∃ s s', u = .zero s ∧ v = .zero s' := by
  cases u with
  | notANumber => cases h
  | infinity s =>
      cases v with
      | notANumber => cases h
      | infinity s' =>
          refine .inl ?_
          cases s <;> cases s' <;> first | rfl | cases h
      | zero s' | finite s' n f hn => cases s <;> cases h
  | zero s =>
      cases v with
      | notANumber => cases h
      | infinity s' | finite s' n f hn => cases s' <;> cases h
      | zero s' => exact .inr ⟨s, s', rfl, rfl⟩
  | finite s m e hm =>
      cases v with
      | notANumber => cases h
      | infinity s' => cases s' <;> cases h
      | zero s' => cases s <;> cases h
      | finite s' n f hn =>
          have heq : (compare e f).then (compare m n) = .eq → e = f ∧ m = n := by
            intro ho
            obtain ⟨he, hm⟩ := Ordering.then_eq_eq.1 ho
            exact ⟨compare_eq_iff_eq.1 he, compare_eq_iff_eq.1 hm⟩
          refine .inl ?_
          cases s <;> cases s'
          case negative.negative =>
            have hswap := congrArg Ordering.swap (Option.some_inj.1 h)
            rw [Ordering.swap_swap] at hswap
            obtain ⟨rfl, rfl⟩ := heq hswap
            rfl
          case negative.positive => cases h
          case positive.negative => cases h
          case positive.positive =>
            obtain ⟨rfl, rfl⟩ := heq (Option.some_inj.1 h)
            rfl

theorem beq_iff : (x == y) = true ↔ x.toModel.unpack.compare y.toModel.unpack = some .eq :=
  beq_iff_eq (a := x.toModel.unpack.compare y.toModel.unpack)

theorem Agree.symm (h : Agree x y) : Agree y x := by
  rcases h with rfl | h
  · exact .inl rfl
  have hcompare := beq_iff.1 h
  refine .inr (beq_iff.2 ?_)
  rcases unpack_eq_of_beq hcompare with h | ⟨s, s', hx, hy⟩
  · rwa [h] at hcompare ⊢
  · rw [hx, hy]
    rfl

theorem Agree.trans (h : Agree x y) (h' : Agree y w) : Agree x w := by
  rcases h with rfl | h
  · exact h'
  rcases h' with rfl | h'
  · exact .inr h
  have hcompare := beq_iff.1 h
  have hcompare' := beq_iff.1 h'
  refine .inr (beq_iff.2 ?_)
  rcases unpack_eq_of_beq hcompare with h | ⟨s, s', hx, hy⟩
  · rwa [h]
  · rcases unpack_eq_of_beq hcompare' with h | ⟨t, t', hy', hw⟩
    · rwa [← h]
    · rw [hx, hw]
      rfl

/-- Two sums are the same if they are so before they are stored. -/
theorem add_congr (h : add .binary32 x.toModel.unpack y.toModel.unpack =
    add .binary32 x.toModel.unpack w.toModel.unpack) : x + y = x + w := by
  have hmodel : Float32.Model.add x.toModel y.toModel = Float32.Model.add x.toModel w.toModel := by
    unfold Float32.Model.add
    rw [h]
  exact congrArg Float32.ofModel hmodel

/-- Equal summands lead to equal sums. -/
theorem Agree.add_left (x : Float32) (h : Agree y w) : Agree (x + y) (x + w) := by
  rcases h with rfl | h
  · exact .inl rfl
  rcases unpack_eq_of_beq (beq_iff.1 h) with h | ⟨s, s', hy, hw⟩
  · exact .inl (add_congr (by rw [h]))
  · cases hx : x.toModel.unpack with
    | notANumber | infinity s₀ | finite s₀ m e hm =>
        refine .inl (add_congr ?_)
        rw [hx, hy, hw]
        rfl
    | zero s₀ =>
        -- a zero and a zero make a zero
        have hsum : (x + y).toModel.unpack.compare (x + w).toModel.unpack = some .eq := by
          rw [unpack_add, unpack_add, hx, hy, hw]
          cases s₀ <;> cases s <;> cases s' <;> rfl
        exact .inr (beq_iff.2 hsum)

end Equal

/-! ## Halves -/

/-- A half, computed in either way, and what remains beside it are equal. -/
structure HalvesEvenly (w : Float32) : Prop where
  half : (w / 2 == w * 0.5) = true
  rest : (w * 0.5 == w - w * 0.5) = true

section Halves

variable {s : Sign} {m : ℕ} {e : ℤ}

/-- A mantissa that is full fits a smaller exponent as well. -/
theorem Stored.halve (h : Stored m e) (he : -149 < e) : Stored m (e - 1) :=
  ⟨h.lt, .inl (h.full.resolve_right he.ne'), by omega⟩

theorem Stored.log2_eq (h : Stored m e) (he : -149 < e) : m.log2 = 23 := by
  have hfull := h.full.resolve_right he.ne'
  exact (Nat.log2_eq_iff (by omega)).2 ⟨hfull, h.lt⟩

theorem mul_half (hm : 0 < m) (h : Stored m e) (he : -149 < e) :
    mul .binary32 (.finite s m e hm) (.finite .positive (2 ^ 23) (-24) (by decide)) =
      .finite s m (e - 1) hm := by
  have hsign : s * .positive = s := by cases s <;> rfl
  have hlog : (m * 2 ^ 23).log2 = 46 := by rw [log2_mul_two_pow hm, h.log2_eq he]
  show roundWithAccuracy .binary32 (s * .positive) (m * 2 ^ 23) (e + -24) .exact = _
  rw [hsign]
  refine roundWithAccuracy_of_stored s (Nat.mul_pos hm (by decide)) ?_ (h.halve he) hm ?_
  · rw [hlog]
    omega
  · rw [show e + -24 = e - 1 - (23 : ℕ) by omega, ← Nat.shiftLeft_eq, shiftLeft_value]

theorem sub_half (hm : 0 < m) (h : Stored m e) (he : -149 < e) :
    sub .binary32 (.finite s m e hm) (.finite s m (e - 1) hm) = .finite s m (e - 1) hm := by
  have hmin : min e (e - 1) = e - 1 := by omega
  have hone : (e - (e - 1)).toNat = 1 := by omega
  have hzero : (e - 1 - (e - 1)).toNat = 0 := by omega
  have hrest : s.apply ((m <<< 1 : ℕ) : ℤ) - s.apply ((m <<< 0 : ℕ) : ℤ) = s.apply m := by
    rw [Nat.shiftLeft_eq]
    cases s <;> simp only [Sign.apply, Nat.shiftLeft_zero] <;> push_cast <;> ring
  show UnpackedFloat.normalize .binary32 (s.apply ((m <<< (e - min e (e - 1)).toNat : ℕ) : ℤ) -
    s.apply ((m <<< (e - 1 - min e (e - 1)).toNat : ℕ) : ℤ)) (min e (e - 1)) .positive = _
  rw [hmin, hone, hzero, hrest, normalize_apply s hm, round_of_stored s hm (h.halve he)]

private theorem targetExponent_eq (x : ℤ) :
    Format.binary32.targetExponent x = max (x - 24) (-149) := rfl

theorem div_two (hm : 0 < m) (h : Stored m e) (he : -149 < e) :
    div .binary32 (.finite s m e hm) (.finite .positive (2 ^ 23) (-22) (by decide)) =
      .finite s m (e - 1) hm := by
  have hsign : s / .positive = s := by cases s <;> rfl
  obtain ⟨t, ht⟩ : ∃ t, t = max (e - 2) (-149) := ⟨_, rfl⟩
  obtain ⟨k, hk⟩ : ∃ k : ℕ, (e - -22 - t).toNat = k + 23 :=
    ⟨(e - -22 - t).toNat - 23, by omega⟩
  have hshift : m <<< (k + 23) = m * 2 ^ k * 2 ^ 23 := by
    rw [Nat.shiftLeft_eq, pow_add, mul_assoc]
  have htarget : min (e - -22) (Format.binary32.targetExponent
      (totalExponent m e - totalExponent (2 ^ 23) (-22))) = t := by
    rw [totalExponent, totalExponent, h.log2_eq he, Nat.log2_two_pow, targetExponent_eq]
    omega
  have hcore : divCore .binary32 m e (2 ^ 23) (-22) = (m * 2 ^ k, t, .exact) := by
    unfold divCore
    simp only [htarget, hk, hshift, Nat.mul_div_cancel _ (Nat.two_pow_pos 23), Nat.mul_mod_left]
    rfl
  show (match divCore .binary32 m e (2 ^ 23) (-22) with
    | (m, e, a) => roundWithAccuracy .binary32 (s / Sign.positive) m e a) = _
  rw [hcore, hsign]
  refine roundWithAccuracy_of_stored s (Nat.mul_pos hm (Nat.two_pow_pos k)) ?_ (h.halve he) hm ?_
  · rw [log2_mul_two_pow hm, h.log2_eq he]
    omega
  · rw [show t = e - 1 - (k : ℤ) by omega, ← Nat.shiftLeft_eq, shiftLeft_value]

private theorem unpack_two :
    (2 : Float32).toModel.unpack = .finite .positive (2 ^ 23) (-22) (by decide) := by
  rfl

private theorem unpack_half :
    (0.5 : Float32).toModel.unpack = .finite .positive (2 ^ 23) (-24) (by decide) := by
  rfl

private theorem compare_self (hm : 0 < m) (h : Stored m e) :
    (UnpackedFloat.finite s m e hm).compare (.finite s m e hm) = some .eq := by
  have hstored : IsStored (.finite s m e hm) := h
  rw [compare_number hstored hstored rfl rfl, compare_eq_iff_eq.2 rfl]

private theorem unpack_div_two (w : Float32) : (w / 2).toModel.unpack =
    stored (div .binary32 w.toModel.unpack (.finite .positive (2 ^ 23) (-22) (by decide))) :=
  congrArg (fun u => stored (div _ _ u)) unpack_two

private theorem unpack_mul_half (w : Float32) : (w * 0.5).toModel.unpack =
    stored (mul .binary32 w.toModel.unpack (.finite .positive (2 ^ 23) (-24) (by decide))) :=
  congrArg (fun u => stored (mul _ _ u)) unpack_half

private theorem unpack_sub (w v : Float32) : (w - v).toModel.unpack =
    stored (sub .binary32 w.toModel.unpack v.toModel.unpack) := rfl

/-- A mantissa of a number that is not tiny is full. -/
private theorem exponent_of_le (h : Stored m e) (hle : (2 : ℚ) ^ (-125 : ℤ) ≤ m * 2 ^ e) :
    -149 < e := by
  refine lt_of_le_of_ne h.le ?_
  rintro rfl
  have hlt : (m : ℚ) < 2 ^ 24 := by exact_mod_cast h.lt
  have htiny : (m : ℚ) * 2 ^ (-149 : ℤ) < 2 ^ 24 * 2 ^ (-149 : ℤ) :=
    mul_lt_mul_of_pos_right hlt (by positivity)
  have hpow : (2 : ℚ) ^ 24 * 2 ^ (-149 : ℤ) = 2 ^ (-125 : ℤ) := by norm_num
  linarith

/-- Zero and all numbers that are not tiny halve evenly. -/
theorem halvesEvenly_of_le {w : Float32} {q : ℚ} (h : number? w = some q)
    (hq : q = 0 ∨ 2 ^ (-125 : ℤ) ≤ |q|) : HalvesEvenly w := by
  have hw : IsStored w.toModel.unpack := isStored_unpack _
  cases hu : w.toModel.unpack with
  | notANumber | infinity s =>
      rw [number?, hu] at h
      cases h
  | zero s =>
      refine ⟨beq_iff.2 ?_, beq_iff.2 ?_⟩
      · rw [unpack_div_two, unpack_mul_half, hu]
        cases s <;> rfl
      · rw [unpack_sub, unpack_mul_half, hu]
        cases s <;> rfl
  | finite s m e hm =>
      rw [hu] at hw
      rw [number?, hu] at h
      cases h
      have hpos : (0 : ℚ) < (m : ℚ) * 2 ^ e := mul_pos (by exact_mod_cast hm) (by positivity)
      have habs : |((s.apply m : ℤ) : ℚ) * 2 ^ e| = m * 2 ^ e := by
        cases s with
        | positive => exact abs_of_pos hpos
        | negative => rw [apply_negative, abs_neg, abs_of_pos hpos]
      have hlarge : (2 : ℚ) ^ (-125 : ℤ) ≤ m * 2 ^ e := by
        rcases hq with hzero | hle
        · rw [hzero, abs_zero] at habs
          exact absurd habs hpos.ne
        · rwa [habs] at hle
      have he := exponent_of_le hw hlarge
      have htop : e ≤ 104 := exponent_le_of_unpack hu
      have hhalf : Stored m (e - 1) := Stored.halve hw he
      have hstored : stored (.finite s m (e - 1) hm) = .finite s m (e - 1) hm :=
        unpack_pack_of_le s hm hhalf (by omega)
      have hdiv : (w / 2).toModel.unpack = .finite s m (e - 1) hm := by
        rw [unpack_div_two, hu, div_two hm hw he, hstored]
      have hmul : (w * 0.5).toModel.unpack = .finite s m (e - 1) hm := by
        rw [unpack_mul_half, hu, mul_half hm hw he, hstored]
      have hrest : (w - w * 0.5).toModel.unpack = .finite s m (e - 1) hm := by
        rw [unpack_sub, hmul, hu, sub_half hm hw he, hstored]
      refine ⟨beq_iff.2 ?_, beq_iff.2 ?_⟩
      · rw [hdiv, hmul, compare_self hm hhalf]
      · rw [hmul, hrest, compare_self hm hhalf]

-- next to the least normal number a half is rounded
example : let w : Float32 := .ofBits 0x00800001
    (w / 2 == w * 0.5) = true ∧ (w * 0.5 == w - w * 0.5) = false := by
  decide +kernel

end Halves

end Docking
