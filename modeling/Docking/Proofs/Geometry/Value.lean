import Docking.Geometry
import Mathlib.Algebra.Order.Field.Power
import Mathlib.Algebra.Order.Field.Rat
import Mathlib.Tactic.Ring

/-!
# Floats as numbers

A float stands for a rational number unless it is infinite or undefined. The comparisons of floats
look at the stored mantissas and exponents; here they are shown to be those of the numbers. What
lies between two numbers in the order of floats is a number itself.

## Main definitions

* `number?`: the number for which a float stands.

## Main results

* `compare_number`: floats are compared as the numbers for which they stand.
* `lt_iff`, `le_iff`: the same for `<` and `≤`.
* `exists_number_of_between`: there is nothing but numbers between two numbers.
-/

namespace Docking

open Float.Model (Format UnpackedFloat)

/-- The number for which a float with separate sign, mantissa and exponent stands. -/
def unpackedNumber? : UnpackedFloat → Option ℚ
  | .zero _ => some 0
  | .finite s m e _ => some ((s.apply m : ℤ) * 2 ^ e)
  | .infinity _ | .notANumber => none

/-- The number for which a float stands, unless it is infinite or undefined. -/
def number? (x : Float32) : Option ℚ := unpackedNumber? x.toModel.unpack

/-! ## What is stored -/

/-- A mantissa and an exponent as they are stored: the mantissa uses all of its bits unless the
exponent is as small as it can be. -/
structure Stored (m : ℕ) (e : ℤ) : Prop where
  lt : m < 2 ^ 24
  full : 2 ^ 23 ≤ m ∨ e = -149
  le : -149 ≤ e

/-- A float in the form in which floats are stored. -/
def IsStored : UnpackedFloat → Prop
  | .finite _ m e _ => Stored m e
  | _ => True

theorem isStored_unpack (b : BitVec Format.binary32.numBits) :
    IsStored (UnpackedFloat.unpack .binary32 b) := by
  have hbias : ((Format.binary32.exponentBias : ℤ) + Format.binary32.mantissaBitsWithoutImplicit) =
      150 := by decide
  have hmantissa : (UnpackedFloat.unpackMantissa b).toNat < 2 ^ 23 := BitVec.isLt _
  unfold UnpackedFloat.unpack
  by_cases htop : UnpackedFloat.unpackExponent b = -1#_
  · rw [if_pos htop]
    by_cases hzero : UnpackedFloat.unpackMantissa b = 0#_
    · rw [if_pos hzero]
      trivial
    · rw [if_neg hzero]
      trivial
  · rw [if_neg htop]
    by_cases hbottom : UnpackedFloat.unpackExponent b = 0#_
    · rw [if_pos hbottom]
      by_cases hzero : UnpackedFloat.unpackMantissa b = 0#_
      · rw [dif_pos hzero]
        trivial
      · have hexponent : ((UnpackedFloat.unpackExponent b).toNat : ℤ) - 150 + 1 = -149 := by
          rw [hbottom]
          decide
        rw [dif_neg hzero]
        show Stored _ _
        rw [hbias, hexponent]
        exact ⟨by omega, .inr rfl, le_rfl⟩
    · have hpos : (UnpackedFloat.unpackExponent b).toNat ≠ 0 := by
        intro h
        exact hbottom (BitVec.eq_of_toNat_eq h)
      have happend : (1#1 ++ UnpackedFloat.unpackMantissa b).toNat =
          2 ^ 23 + (UnpackedFloat.unpackMantissa b).toNat := by
        rw [BitVec.toNat_append, Nat.shiftLeft_eq, Nat.or_comm]
        exact (Nat.or_two_pow_eq_add_of_lt hmantissa).trans (Nat.add_comm ..)
      rw [if_neg hbottom]
      show Stored _ _
      rw [hbias, happend]
      exact ⟨by omega, .inl (by omega), by omega⟩

/-- A larger exponent makes a larger number, since its mantissa is full. -/
theorem Stored.lt_of_exponent_lt {m n : ℕ} {e f : ℤ} (hm : Stored m e) (hn : Stored n f)
    (h : e < f) : (m : ℚ) * 2 ^ e < n * 2 ^ f := by
  have hpow : (2 : ℚ) ^ (e + 1) ≤ 2 ^ f := zpow_le_zpow_right₀ (by norm_num) (by omega)
  have hfull : 2 ^ 23 ≤ n := by
    rcases hn.full with hfull | hsmall
    · exact hfull
    · have := hm.le
      omega
  have hlt : (m : ℚ) < 2 ^ 24 := by exact_mod_cast hm.lt
  have hle : (2 : ℚ) ^ 23 ≤ n := by exact_mod_cast hfull
  calc (m : ℚ) * 2 ^ e < 2 ^ 24 * 2 ^ e := mul_lt_mul_of_pos_right hlt (by positivity)
    _ = 2 ^ 23 * 2 ^ (e + 1) := by rw [zpow_add_one₀ (by norm_num)]; ring
    _ ≤ n * 2 ^ f := mul_le_mul hle hpow (by positivity) (by positivity)

/-- Exponents are compared first, and mantissas only if the exponents agree. -/
theorem Stored.compare_eq {m n : ℕ} {e f : ℤ} (hm : Stored m e) (hn : Stored n f) :
    (compare e f).then (compare m n) = compare ((m : ℚ) * 2 ^ e) (n * 2 ^ f) := by
  rcases lt_trichotomy e f with h | rfl | h
  · rw [compare_lt_iff_lt.2 h, compare_lt_iff_lt.2 (hm.lt_of_exponent_lt hn h)]
    rfl
  · have hpow : (0 : ℚ) < 2 ^ e := by positivity
    rw [compare_eq_iff_eq.2 (rfl : e = e)]
    show compare m n = _
    rcases lt_trichotomy m n with h | rfl | h
    · rw [compare_lt_iff_lt.2 h,
        compare_lt_iff_lt.2 (mul_lt_mul_of_pos_right (Nat.cast_lt.2 h) hpow)]
    · rw [compare_eq_iff_eq.2 (rfl : m = m), compare_eq_iff_eq.2 rfl]
    · rw [compare_gt_iff_gt.2 h,
        compare_gt_iff_gt.2 (mul_lt_mul_of_pos_right (Nat.cast_lt.2 h) hpow)]
  · rw [compare_gt_iff_gt.2 h, compare_gt_iff_gt.2 (hn.lt_of_exponent_lt hm h)]
    rfl

/-! ## Comparisons -/

private theorem compare_neg (a b : ℚ) : compare (-a) (-b) = (compare a b).swap := by
  rcases lt_trichotomy a b with h | rfl | h
  · rw [compare_lt_iff_lt.2 h, compare_gt_iff_gt.2 (neg_lt_neg h)]
    rfl
  · rw [compare_eq_iff_eq.2 rfl, compare_eq_iff_eq.2 rfl]
    rfl
  · rw [compare_gt_iff_gt.2 h, compare_lt_iff_lt.2 (neg_lt_neg h)]
    rfl

/-- Floats are compared as the numbers for which they stand. -/
theorem compare_number {u v : UnpackedFloat} {a b : ℚ} (hu : IsStored u) (hv : IsStored v)
    (ha : unpackedNumber? u = some a) (hb : unpackedNumber? v = some b) :
    u.compare v = some (compare a b) := by
  have hpos : ∀ {m : ℕ} (e : ℤ), 0 < m → (0 : ℚ) < ((m : ℤ) : ℚ) * 2 ^ e := by
    intro m e hm
    exact mul_pos (by exact_mod_cast hm) (zpow_pos (by norm_num) e)
  have hneg : ∀ {m : ℕ} (e : ℤ), 0 < m → ((-m : ℤ) : ℚ) * 2 ^ e < 0 := by
    intro m e hm
    rw [Int.cast_neg, neg_mul]
    exact neg_neg_of_pos (hpos e hm)
  cases u with
  | infinity s | notANumber => cases ha
  | zero s =>
      cases ha
      cases v with
      | infinity s' | notANumber => cases hb
      | zero s' =>
          cases hb
          rfl
      | finite s' n f hn =>
          cases hb
          cases s' with
          | positive => exact congrArg some (compare_lt_iff_lt.2 (hpos f hn)).symm
          | negative => exact congrArg some (compare_gt_iff_gt.2 (hneg f hn)).symm
  | finite s m e hm =>
      cases ha
      cases v with
      | infinity s' | notANumber => cases hb
      | zero s' =>
          cases hb
          cases s with
          | positive => exact congrArg some (compare_gt_iff_gt.2 (hpos e hm)).symm
          | negative => exact congrArg some (compare_lt_iff_lt.2 (hneg e hm)).symm
      | finite s' n f hn =>
          cases hb
          have hcompare := Stored.compare_eq hu hv
          cases s with
          | positive =>
              cases s' with
              | positive => exact congrArg some hcompare
              | negative =>
                  exact congrArg some (compare_gt_iff_gt.2 ((hneg f hn).trans (hpos e hm))).symm
          | negative =>
              cases s' with
              | positive =>
                  exact congrArg some (compare_lt_iff_lt.2 ((hneg e hm).trans (hpos f hn))).symm
              | negative =>
                  have hswap : compare (((-m : ℤ) : ℚ) * 2 ^ e) (((-n : ℤ) : ℚ) * 2 ^ f) =
                      ((compare e f).then (compare m n)).swap := by
                    rw [hcompare, ← compare_neg, Int.cast_neg, Int.cast_neg, neg_mul, neg_mul]
                    rfl
                  exact congrArg some hswap.symm

/-- An infinite float is not below a number or not above one, and an undefined float is neither. -/
private theorem isSome_of_between {u v w : UnpackedFloat} (hu : (unpackedNumber? u).isSome)
    (hw : (unpackedNumber? w).isSome) (huv : u.le v) (hvw : v.lt w) :
    (unpackedNumber? v).isSome := by
  cases v with
  | zero s | finite s m e hm => rfl
  | notANumber =>
      cases u with
      | infinity s | notANumber => cases hu
      | zero s | finite s m e hm => cases huv
  | infinity s =>
      cases s with
      | positive =>
          cases w with
          | infinity s | notANumber => cases hw
          | zero s | finite s m e hm => cases hvw
      | negative =>
          cases u with
          | infinity s | notANumber => cases hu
          | zero s => cases huv
          | finite s m e hm => cases s <;> cases huv

section Order

variable {x y z : Float32} {a b c : ℚ}

private theorem compare_unpack (ha : number? x = some a) (hb : number? y = some b) :
    x.toModel.unpack.compare y.toModel.unpack = some (compare a b) :=
  compare_number (isStored_unpack _) (isStored_unpack _) ha hb

theorem lt_iff (ha : number? x = some a) (hb : number? y = some b) : x < y ↔ a < b := by
  have hlt : x < y ↔ x.toModel.unpack.lt y.toModel.unpack = true := decide_eq_true_iff
  rw [hlt, UnpackedFloat.lt, compare_unpack ha hb, beq_iff_eq, Option.some_inj, compare_lt_iff_lt]

theorem le_iff (ha : number? x = some a) (hb : number? y = some b) : x ≤ y ↔ a ≤ b := by
  have hle : x ≤ y ↔ x.toModel.unpack.le y.toModel.unpack = true := decide_eq_true_iff
  rw [hle, UnpackedFloat.le, compare_unpack ha hb, Option.any_some, Ordering.isLE_iff_ne_gt]
  exact compare_le_iff_le

/-- There is nothing but numbers between two numbers. -/
theorem exists_number_of_between (ha : number? x = some a) (hc : number? z = some c) (hxy : x ≤ y)
    (hyz : y < z) : ∃ b, number? y = some b := by
  have hle : x.toModel.unpack.le y.toModel.unpack = true := decide_eq_true_iff.1 hxy
  have hlt : y.toModel.unpack.lt z.toModel.unpack = true := decide_eq_true_iff.1 hyz
  exact Option.isSome_iff_exists.1 (isSome_of_between (Option.isSome_of_mem ha)
    (Option.isSome_of_mem hc) hle hlt)

end Order

end Docking
