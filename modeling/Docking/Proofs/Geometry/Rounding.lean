import Docking.Proofs.Geometry.Value
import Mathlib

/-!
# Rounding

The result of an operation on floats is computed exactly and then rounded to what can be stored.
Rounding does not pass by a number that can be stored: what is not above such a number is not above
it afterwards, and what is not below it is not below it afterwards.

## Main definitions

* `Rounds`: what it means that a stored mantissa and exponent are what a number is rounded to.

## Main results

* `unpack_pack_of_le`, `unpack_pack_of_lt`: what is stored is what was to be stored, unless it is
  too large.
* `Rounds.eq_of_stored`: what can be stored is rounded to itself.
* `exists_round`: a number is rounded to something that does not pass by stored numbers.
* `round_of_stored`, `roundWithAccuracy_of_stored`: a result that can be stored is exact.
-/

namespace Docking

open Float.Model (Format UnpackedFloat totalExponent)
open Float.Model.UnpackedFloat

/-! ## Packing -/

private theorem bias_eq :
    (Format.binary32.exponentBias : ℤ) + Format.binary32.mantissaBitsWithoutImplicit = 150 := by
  decide

/-- A stored float is unpacked with an exponent that is not too large. -/
theorem exponent_le_of_unpack {b : BitVec Format.binary32.numBits} {s : Sign} {m : ℕ} {e : ℤ}
    {hm : 0 < m} (h : unpack .binary32 b = .finite s m e hm) : e ≤ 104 := by
  have hlt : (unpackExponent b).toNat < 256 := BitVec.isLt _
  unfold unpack at h
  by_cases htop : unpackExponent b = -1#_
  · rw [if_pos htop] at h
    split at h <;> cases h
  · have hne : (unpackExponent b).toNat ≠ 255 := fun h => htop (BitVec.eq_of_toNat_eq h)
    rw [if_neg htop, bias_eq] at h
    by_cases hbottom : unpackExponent b = 0#_
    · have hzero : (unpackExponent b).toNat = 0 := congrArg BitVec.toNat hbottom
      rw [if_pos hbottom] at h
      split at h
      · cases h
      · cases h
        omega
    · rw [if_neg hbottom] at h
      cases h
      omega

section Packing

variable (s : Sign) {m : ℕ} {e : ℤ} (hm : 0 < m)

/-- What is too large is unpacked as infinite. -/
theorem unpack_pack_of_lt (he : 104 < e) :
    unpack .binary32 (pack .binary32 (.finite s m e hm)) = .infinity s := by
  have htop : 2 ^ Format.binary32.exponentBits ≤ (e + Format.binary32.exponentBias +
      Format.binary32.mantissaBitsWithoutImplicit).toNat + 1 := by
    show 256 ≤ (e + (127 : ℕ) + (23 : ℕ)).toNat + 1
    omega
  have hpack : pack .binary32 (.finite s m e hm) = packedInfinity .binary32 s := if_pos htop
  rw [hpack]
  cases s <;> rfl

private theorem not_too_large (hle : -149 ≤ e) (he : e ≤ 104) :
    ¬ 2 ^ Format.binary32.exponentBits ≤ (e + Format.binary32.exponentBias +
      Format.binary32.mantissaBitsWithoutImplicit).toNat + 1 := by
  show ¬ 256 ≤ (e + (127 : ℕ) + (23 : ℕ)).toNat + 1
  omega

/-- The leading bit of a full mantissa is left out when it is packed, and put back. -/
private theorem unpack_pack_of_full (hlt : m < 2 ^ 24) (hfull : 2 ^ 23 ≤ m) (hle : -149 ≤ e)
    (he : e ≤ 104) :
    unpack .binary32 (pack .binary32 (.finite s m e hm)) = .finite s m e hm := by
  let exponent : BitVec 8 := BitVec.ofNat 8 (e + (127 : ℕ) + (23 : ℕ)).toNat
  have hlog : m.log2 + 1 = Format.binary32.mantissaBits :=
    congrArg Nat.succ ((Nat.log2_eq_iff hm.ne').2 ⟨hfull, hlt⟩)
  have hpack : pack .binary32 (.finite s m e hm) =
      packComponents .binary32 s exponent (BitVec.ofNat 23 m) := by
    unfold pack
    rw [if_neg (not_too_large hle he), if_pos hlog]
    rfl
  have hexponent : exponent.toNat = (e + 150).toNat := by
    show (BitVec.ofNat 8 (e + (127 : ℕ) + (23 : ℕ)).toNat).toNat = _
    rw [BitVec.toNat_ofNat, Nat.mod_eq_of_lt (by omega)]
    omega
  have hne : ∀ c : BitVec 8, c.toNat ≠ (e + 150).toNat → exponent ≠ c := by
    rintro c hc rfl
    exact hc hexponent
  have htop : exponent ≠ -1#8 := hne _ (by show 255 ≠ _; omega)
  have hbottom : exponent ≠ 0#8 := hne _ (by show 0 ≠ _; omega)
  have hmantissa : (1#1 ++ BitVec.ofNat 23 m).toNat = m := by
    rw [BitVec.toNat_append, Nat.shiftLeft_eq, Nat.or_comm]
    refine (Nat.or_two_pow_eq_add_of_lt (BitVec.isLt _)).trans ?_
    rw [BitVec.toNat_ofNat]
    omega
  rw [hpack]
  unfold unpack
  simp only [unpackMantissa_packComponents, unpackExponent_packComponents,
    unpackSign_packComponents, Sign.ofBitVec_toBitVec, if_neg htop, if_neg hbottom, hexponent,
    hmantissa]
  congr 1
  rw [bias_eq]
  omega

/-- A mantissa that is not full is packed as it is, with the exponent of zero. -/
private theorem unpack_pack_of_not_full (hlt : m < 2 ^ 23) :
    unpack .binary32 (pack .binary32 (.finite s m (-149) hm)) = .finite s m (-149) hm := by
  have hlog : m.log2 + 1 ≠ Format.binary32.mantissaBits := by
    have := (Nat.log2_lt hm.ne').2 hlt
    show m.log2 + 1 ≠ 24
    omega
  have hpack : pack .binary32 (.finite s m (-149) hm) =
      packComponents .binary32 s 0#8 (BitVec.ofNat 23 m) := by
    unfold pack
    rw [if_neg (not_too_large le_rfl (by decide)), if_neg hlog]
  have hmantissa : (BitVec.ofNat 23 m).toNat = m := by
    rw [BitVec.toNat_ofNat]
    exact Nat.mod_eq_of_lt hlt
  have hne : BitVec.ofNat 23 m ≠ 0#23 := fun h => hm.ne' (hmantissa ▸ congrArg BitVec.toNat h)
  rw [hpack]
  unfold unpack
  simp only [unpackMantissa_packComponents, unpackExponent_packComponents,
    unpackSign_packComponents, Sign.ofBitVec_toBitVec, hne, if_false, hmantissa]
  rfl

/-- What can be stored is unpacked as it was packed. -/
theorem unpack_pack_of_le (h : Stored m e) (he : e ≤ 104) :
    unpack .binary32 (pack .binary32 (.finite s m e hm)) = .finite s m e hm := by
  by_cases hfull : 2 ^ 23 ≤ m
  · exact unpack_pack_of_full s hm h.lt hfull h.le he
  · obtain rfl : e = -149 := h.full.resolve_left hfull
    exact unpack_pack_of_not_full s hm (Nat.lt_of_not_le hfull)

end Packing

/-! ## Shifting -/

theorem shiftRight_succ (em : ExtendedMantissa) (k : ℕ) :
    em >>> (k + 1) = (em >>> k).shiftRightOne := rfl

theorem mantissa_shiftRight (em : ExtendedMantissa) (k : ℕ) :
    (em >>> k).mantissa = em.mantissa / 2 ^ k := by
  induction k with
  | zero => exact (Nat.div_one _).symm
  | succ k ih =>
      rw [shiftRight_succ, pow_succ, ← Nat.div_div_eq_div_mul, ← ih]
      rfl

/-- A mantissa that is shifted by some bits and rounded. -/
def roundedAt (m k : ℕ) : ℕ := ((ExtendedMantissa.mk m false false) >>> k).roundedMantissa

/-- Bits that are all zero leave no trace. -/
theorem accuracy_shiftRight {m k : ℕ} (h : m % 2 ^ k = 0) :
    ((ExtendedMantissa.mk m false false) >>> k).roundBit = false ∧
      ((ExtendedMantissa.mk m false false) >>> k).stickyBit = false := by
  induction k with
  | zero => exact ⟨rfl, rfl⟩
  | succ k ih =>
      have hdvd : 2 ^ (k + 1) ∣ m := Nat.dvd_of_mod_eq_zero h
      obtain ⟨hround, hsticky⟩ := ih (Nat.mod_eq_zero_of_dvd ((pow_dvd_pow 2 k.le_succ).trans hdvd))
      have heven : (m / 2 ^ k) % 2 = 0 := by
        obtain ⟨c, rfl⟩ := hdvd
        rw [pow_succ, mul_assoc, Nat.mul_div_cancel_left _ (Nat.two_pow_pos k)]
        omega
      rw [shiftRight_succ]
      refine ⟨?_, ?_⟩
      · show ((((ExtendedMantissa.mk m false false) >>> k).mantissa % 2) != 0) = false
        rw [mantissa_shiftRight, heven]
        rfl
      · show (((ExtendedMantissa.mk m false false) >>> k).roundBit ||
          ((ExtendedMantissa.mk m false false) >>> k).stickyBit) = false
        rw [hround, hsticky]
        rfl

theorem roundedMantissa_bounds (em : ExtendedMantissa) :
    em.mantissa ≤ em.roundedMantissa ∧ em.roundedMantissa ≤ em.mantissa + 1 := by
  obtain ⟨m, r, s⟩ := em
  have hparity : m % 2 < 2 := Nat.mod_lt _ (by decide)
  cases r <;> cases s <;>
    simp only [ExtendedMantissa.roundedMantissa, ExtendedMantissa.accuracy,
      Accuracy.roundToNearestEven] <;>
    omega

theorem le_roundedAt {m k K : ℕ} (h : K * 2 ^ k ≤ m) : K ≤ roundedAt m k := by
  have hfloor : K ≤ m / 2 ^ k := (Nat.le_div_iff_mul_le (Nat.two_pow_pos k)).2 h
  have hbound := (roundedMantissa_bounds ((ExtendedMantissa.mk m false false) >>> k)).1
  rw [mantissa_shiftRight] at hbound
  exact hfloor.trans hbound

theorem roundedAt_le {m k K : ℕ} (h : m ≤ K * 2 ^ k) : roundedAt m k ≤ K := by
  have hbound := (roundedMantissa_bounds ((ExtendedMantissa.mk m false false) >>> k)).2
  have hfloor : m / 2 ^ k ≤ K := Nat.div_le_of_le_mul (by rwa [mul_comm])
  rw [mantissa_shiftRight] at hbound
  by_cases hrest : m % 2 ^ k = 0
  · -- nothing is rounded
    obtain ⟨hround, hsticky⟩ := accuracy_shiftRight hrest
    have hexact : roundedAt m k = m / 2 ^ k := by
      rw [← mantissa_shiftRight (.mk m false false) k, roundedAt]
      generalize (ExtendedMantissa.mk m false false) >>> k = em at hround hsticky
      obtain ⟨n, r, s⟩ := em
      subst hround hsticky
      rfl
    rw [hexact]
    exact hfloor
  · have hlt : m / 2 ^ k < K := by
      refine lt_of_le_of_ne hfloor fun e => hrest ?_
      have hdiv := Nat.div_add_mod m (2 ^ k)
      rw [e, mul_comm] at hdiv
      omega
    exact hbound.trans hlt

/-! ## Rounding -/

/-- A float with sign, mantissa and exponent, where the mantissa may be zero. -/
def ofParts (s : Sign) (n : ℕ) (f : ℤ) : UnpackedFloat :=
  if h : n = 0 then .zero s else .finite s n f (Nat.pos_of_ne_zero h)

/-- What can be stored becomes a number, or it is too large and becomes infinite. -/
theorem unpack_pack_ofParts (s : Sign) {n : ℕ} {f : ℤ} (h : Stored n f) :
    (f ≤ 104 ∧ unpackedNumber? (unpack .binary32 (pack .binary32 (ofParts s n f))) =
      some (((s.apply n : ℤ) : ℚ) * 2 ^ f)) ∨
    (104 < f ∧ unpack .binary32 (pack .binary32 (ofParts s n f)) = .infinity s) := by
  by_cases hzero : n = 0
  · subst hzero
    obtain rfl : f = -149 := h.full.resolve_left (by decide)
    refine .inl ⟨by decide, ?_⟩
    have hparts : ofParts s 0 (-149) = .zero s := rfl
    rw [hparts, Int.natCast_zero]
    cases s <;> exact congrArg some (by simp [Sign.apply])
  · rw [ofParts, dif_neg hzero]
    by_cases hf : f ≤ 104
    · rw [unpack_pack_of_le s _ h hf]
      exact .inl ⟨hf, rfl⟩
    · exact .inr ⟨lt_of_not_ge hf, unpack_pack_of_lt s _ (lt_of_not_ge hf)⟩

/-- A number is rounded to a stored mantissa and exponent without passing by anything else that can
be stored. -/
structure Rounds (q : ℚ) (n : ℕ) (f : ℤ) : Prop where
  stored : Stored n f
  le_of_le : ∀ {N : ℕ} {g : ℤ}, Stored N g → q ≤ N * 2 ^ g → (n : ℚ) * 2 ^ f ≤ N * 2 ^ g
  ge_of_ge : ∀ {N : ℕ} {g : ℤ}, Stored N g → N * 2 ^ g ≤ q → (N : ℚ) * 2 ^ g ≤ n * 2 ^ f

/-- A stored mantissa and exponent are determined by the number for which they stand. -/
theorem Stored.unique {m n : ℕ} {e f : ℤ} (hm : Stored m e) (hn : Stored n f)
    (h : (m : ℚ) * 2 ^ e = n * 2 ^ f) : m = n ∧ e = f := by
  have hcompare := (hm.compare_eq hn).trans (compare_eq_iff_eq.2 h)
  obtain ⟨he, hm⟩ := Ordering.then_eq_eq.1 hcompare
  exact ⟨compare_eq_iff_eq.1 hm, compare_eq_iff_eq.1 he⟩

/-- What can be stored is not changed by rounding. -/
theorem Rounds.eq_of_stored {m n : ℕ} {e f : ℤ} (h : Rounds (m * 2 ^ e) n f) (hm : Stored m e) :
    n = m ∧ f = e :=
  h.stored.unique hm (le_antisymm (h.le_of_le hm le_rfl) (h.ge_of_ge hm le_rfl))

section Round

variable {m k : ℕ} {e : ℤ}

/-- A number that is a multiple of the last place that is kept is not passed by. -/
theorem roundedAt_between {N : ℕ} {g : ℤ} (hg : e + k ≤ g) :
    ((m : ℚ) * 2 ^ e ≤ N * 2 ^ g → (roundedAt m k : ℚ) * 2 ^ (e + k) ≤ N * 2 ^ g) ∧
      ((N : ℚ) * 2 ^ g ≤ m * 2 ^ e → (N : ℚ) * 2 ^ g ≤ roundedAt m k * 2 ^ (e + k)) := by
  have hpow : (0 : ℚ) < 2 ^ e := by positivity
  have hpow' : (0 : ℚ) < 2 ^ (e + k) := by positivity
  obtain ⟨d, hd⟩ := Int.eq_ofNat_of_zero_le (sub_nonneg.2 hg)
  obtain rfl : g = e + k + d := by omega
  have hplace : (N : ℚ) * 2 ^ (e + k + d) = (N * 2 ^ d : ℕ) * 2 ^ (e + k) := by
    rw [zpow_add₀ (by norm_num) (e + k), zpow_natCast]
    push_cast
    ring
  have hexact : (N : ℚ) * 2 ^ (e + k + d) = (N * 2 ^ d * 2 ^ k : ℕ) * 2 ^ e := by
    rw [hplace, zpow_add₀ (by norm_num) e, zpow_natCast]
    push_cast
    ring
  refine ⟨fun h => ?_, fun h => ?_⟩
  · rw [hexact] at h
    rw [hplace]
    have hle := Nat.cast_le.1 (le_of_mul_le_mul_right h hpow)
    exact mul_le_mul_of_nonneg_right (Nat.cast_le.2 (roundedAt_le hle)) hpow'.le
  · rw [hexact] at h
    rw [hplace]
    have hle := Nat.cast_le.1 (le_of_mul_le_mul_right h hpow)
    exact mul_le_mul_of_nonneg_right (Nat.cast_le.2 (le_roundedAt hle)) hpow'.le

/-- A number with more than the last place that is kept is above all numbers with less than it. -/
theorem lt_of_exponent_lt {N : ℕ} {g : ℤ} (hN : Stored N g) (hg : g < e + k)
    (hfull : 2 ^ (23 + k) ≤ m) :
    (N : ℚ) * 2 ^ g < m * 2 ^ e ∧ (N : ℚ) * 2 ^ g < roundedAt m k * 2 ^ (e + k) := by
  have hr : 2 ^ 23 ≤ roundedAt m k := le_roundedAt (by rwa [← pow_add])
  have hlt : (N : ℚ) * 2 ^ g < (2 ^ 23 : ℕ) * 2 ^ (e + k) := by
    have := hN.le
    exact hN.lt_of_exponent_lt ⟨by norm_num, .inl le_rfl, by omega⟩ hg
  refine ⟨hlt.trans_le ?_, hlt.trans_le ?_⟩
  · rw [zpow_add₀ (by norm_num), zpow_natCast, ← mul_assoc, mul_right_comm]
    refine mul_le_mul_of_nonneg_right ?_ (by positivity)
    rw [pow_add] at hfull
    exact_mod_cast hfull
  · exact mul_le_mul_of_nonneg_right (Nat.cast_le.2 hr) (by positivity)

/-- A mantissa that is shifted until it fits, and no further than that, is rounded. -/
theorem rounds_of_value {n : ℕ} {f : ℤ} (hstored : Stored n f)
    (hvalue : (n : ℚ) * 2 ^ f = roundedAt m k * 2 ^ (e + k))
    (hfull : 2 ^ (23 + k) ≤ m ∨ e + k = -149) : Rounds (m * 2 ^ e) n f := by
  refine ⟨hstored, fun {N g} hN h => ?_, fun {N g} hN h => ?_⟩
  · rw [hvalue]
    by_cases hg : e + k ≤ g
    · exact (roundedAt_between hg).1 h
    · have := hN.le
      have hm := hfull.resolve_right (by omega)
      exact absurd h (lt_of_exponent_lt hN (lt_of_not_ge hg) hm).1.not_ge
  · rw [hvalue]
    by_cases hg : e + k ≤ g
    · exact (roundedAt_between hg).2 h
    · have := hN.le
      have hm := hfull.resolve_right (by omega)
      exact (lt_of_exponent_lt hN (lt_of_not_ge hg) hm).2.le

/-- By how much a mantissa is shifted so that it can be stored. -/
private theorem shiftToTargetExponent_eq
    (h : (max (m.log2 + 1 + e - 24) (-149) - e).toNat = k) :
    shiftToTargetExponent .binary32 m e .exact =
      ((ExtendedMantissa.mk m false false) >>> k, e + k) := by
  subst h
  rfl

/-- What fits is not shifted any more. -/
private theorem shift_of_lt {r : ℕ} {t : ℤ} (hr : r < 2 ^ 24) (ht : -149 ≤ t) :
    shiftToTargetExponent .binary32 r t .exact = (.mk r false false, t) := by
  have hlog : r.log2 ≤ 23 := by
    by_cases hzero : r = 0
    · subst hzero
      decide
    · have := (Nat.log2_lt hzero).2 hr
      omega
  rw [shiftToTargetExponent_eq (k := 0) (by omega)]
  exact Prod.ext rfl (add_zero t)

/-- A mantissa that was rounded up to one bit too many is shifted by that bit. -/
private theorem shift_overflow {t : ℤ} (ht : -149 ≤ t) :
    shiftToTargetExponent .binary32 (2 ^ 24) t .exact = (.mk (2 ^ 23) false false, t + 1) := by
  have hlog : (2 ^ 24).log2 = 24 := Nat.log2_two_pow
  rw [shiftToTargetExponent_eq (k := 1) (by omega)]
  rfl

/-- A mantissa that has enough bits is rounded. -/
theorem exists_roundWithAccuracy (s : Sign) (hm : 0 < m)
    (hle : e ≤ max (m.log2 + 1 + e - 24) (-149)) :
    ∃ n f, Rounds (m * 2 ^ e) n f ∧ roundWithAccuracy .binary32 s m e .exact = ofParts s n f := by
  obtain ⟨k, hk⟩ := Int.eq_ofNat_of_zero_le (sub_nonneg.2 hle)
  have hlow : -149 ≤ e + k := by omega
  have hfits : m < 2 ^ (24 + k) := (Nat.log2_lt hm.ne').1 (by omega)
  have hr : roundedAt m k ≤ 2 ^ 24 := roundedAt_le (by rw [← pow_add]; exact hfits.le)
  have hfull : 2 ^ (23 + k) ≤ m ∨ e + k = -149 := by
    by_cases hmin : e + k = -149
    · exact .inr hmin
    · refine .inl ((Nat.le_log2 hm.ne').1 ?_)
      omega
  unfold roundWithAccuracy
  rw [shiftToTargetExponent_eq (k := k) (by omega)]
  -- the second shift does something only if rounding has made one bit too many
  by_cases hlt : roundedAt m k < 2 ^ 24
  · refine ⟨roundedAt m k, e + k, rounds_of_value ⟨hlt, ?_, hlow⟩ rfl hfull, ?_⟩
    · exact hfull.imp_left fun h => le_roundedAt (by rwa [← pow_add])
    · show (match shiftToTargetExponent .binary32 (roundedAt m k) (e + k) .exact with
        | (em, f) => ofParts s em.mantissa f) = _
      rw [shift_of_lt hlt hlow]
  · have htop : roundedAt m k = 2 ^ 24 := le_antisymm hr (Nat.le_of_not_lt hlt)
    refine ⟨2 ^ 23, e + k + 1, rounds_of_value ⟨by norm_num, .inl le_rfl, by omega⟩ ?_ hfull, ?_⟩
    · rw [htop, zpow_add_one₀ (by norm_num)]
      push_cast
      ring
    · show (match shiftToTargetExponent .binary32 (roundedAt m k) (e + k) .exact with
        | (em, f) => ofParts s em.mantissa f) = _
      rw [htop, shift_overflow hlow]

theorem log2_mul_two_pow (hm : 0 < m) (j : ℕ) : (m * 2 ^ j).log2 = m.log2 + j := by
  have hpos : m * 2 ^ j ≠ 0 := (Nat.mul_pos hm (Nat.two_pow_pos j)).ne'
  obtain ⟨hle, hlt⟩ := (Nat.log2_eq_iff hm.ne').1 rfl
  refine (Nat.log2_eq_iff hpos).2 ⟨?_, ?_⟩
  · rw [pow_add]
    exact Nat.mul_le_mul_right _ hle
  · rw [add_right_comm, pow_add]
    exact Nat.mul_lt_mul_of_pos_right hlt (Nat.two_pow_pos j)

/-- A mantissa whose exponent is decreased stands for the same number. -/
theorem shiftLeft_value (m : ℕ) (e : ℤ) (j : ℕ) :
    ((m <<< j : ℕ) : ℚ) * 2 ^ (e - j) = m * 2 ^ e := by
  have hpow : (2 : ℚ) ^ j ≠ 0 := by positivity
  rw [Nat.shiftLeft_eq, zpow_sub₀ (by norm_num), zpow_natCast]
  push_cast
  rw [mul_assoc, mul_div_cancel₀ _ hpow]

/-- A number is rounded to something that does not pass by what can be stored. -/
theorem exists_round (s : Sign) (hm : 0 < m) (e : ℤ) :
    ∃ n f, Rounds (m * 2 ^ e) n f ∧ UnpackedFloat.round .binary32 s m e = ofParts s n f := by
  obtain ⟨j, hj⟩ : ∃ j, j = (e - max ((m.log2 : ℤ) + 1 + e - 24) (-149)).toNat := ⟨_, rfl⟩
  have hround : UnpackedFloat.round .binary32 s m e =
      roundWithAccuracy .binary32 s (m <<< j) (e - j) .exact := by
    rw [hj]
    rfl
  have hlog : (m <<< j).log2 = m.log2 + j := Nat.shiftLeft_eq m j ▸ log2_mul_two_pow hm j
  have hpos : 0 < m <<< j := Nat.shiftLeft_eq m j ▸ Nat.mul_pos hm (Nat.two_pow_pos j)
  obtain ⟨n, f, hrounds, hparts⟩ := exists_roundWithAccuracy (e := e - j) s hpos (by omega)
  exact ⟨n, f, shiftLeft_value m e j ▸ hrounds, hround.trans hparts⟩

/-! ## Exact results -/

private theorem ofParts_of_pos (s : Sign) (hm : 0 < m) (e : ℤ) :
    ofParts s m e = .finite s m e hm :=
  dif_neg hm.ne'

/-- A mantissa with enough bits for a number that can be stored is rounded to that number. -/
theorem roundWithAccuracy_of_stored {n : ℕ} {f : ℤ} (s : Sign) (hm : 0 < m)
    (hle : e ≤ max (m.log2 + 1 + e - 24) (-149)) (h : Stored n f) (hn : 0 < n)
    (hvalue : (m : ℚ) * 2 ^ e = n * 2 ^ f) :
    roundWithAccuracy .binary32 s m e .exact = .finite s n f hn := by
  obtain ⟨r, g, hrounds, hparts⟩ := exists_roundWithAccuracy s hm hle
  rw [hvalue] at hrounds
  obtain ⟨rfl, rfl⟩ := hrounds.eq_of_stored h
  rw [hparts, ofParts_of_pos]

theorem round_of_stored (s : Sign) (hm : 0 < m) (h : Stored m e) :
    UnpackedFloat.round .binary32 s m e = .finite s m e hm := by
  obtain ⟨r, g, hrounds, hparts⟩ := exists_round s hm e
  obtain ⟨rfl, rfl⟩ := hrounds.eq_of_stored h
  rw [hparts, ofParts_of_pos]

end Round

end Docking
