import Docking.Proofs.Geometry.Arithmetic

/-!
# Undefined floats

No operation on floats that are not undefined leads to an undefined float unless infinite floats or
zeros meet. In particular there is none in what is read from digits, which is a quotient or a
product with a power of ten. Where a float is undefined, no comparison holds: it is not positive,
and it is not zero or less either.

## Main results

* `isNaN_stored`: a float is undefined after it is stored if it was before.
* `isNaN_ofScientific`: a number with digits and an exponent is not undefined.
* `not_nonpos_iff`: a float that is not zero or less is positive or undefined.
* `Rect.contains_of_isNaN`: no point lies in an area with an undefined side.
-/

namespace Docking

open Float.Model (Format UnpackedFloat)
open Float.Model.UnpackedFloat

theorem isNaN_iff {u : UnpackedFloat} : u.isNaN = true ↔ u = .notANumber := by
  cases u <;> simp [isNaN]

/-! ## Storing -/

/-- Only the largest exponent is that of an undefined float. -/
theorem isNaN_unpack_packComponents (s : Sign) {exponent : BitVec Format.binary32.exponentBits}
    (mantissa : BitVec Format.binary32.mantissaBitsWithoutImplicit)
    (h : exponent ≠ -1#_) :
    (unpack .binary32 (packComponents .binary32 s exponent mantissa)).isNaN = false := by
  unfold unpack
  simp only [unpackMantissa_packComponents, unpackExponent_packComponents,
    unpackSign_packComponents, if_neg h]
  split
  · split <;> rfl
  · rfl

theorem isNaN_stored (u : UnpackedFloat) : (stored u).isNaN = u.isNaN := by
  cases u with
  | notANumber => rfl
  | infinity s | zero s => cases s <;> rfl
  | finite s m e hm =>
      show (unpack .binary32 (pack .binary32 (.finite s m e hm))).isNaN = false
      unfold pack
      by_cases htop : 2 ^ Format.binary32.exponentBits ≤ (e + Format.binary32.exponentBias +
          Format.binary32.mantissaBitsWithoutImplicit).toNat + 1
      · -- what is too large is stored as infinite
        rw [if_pos htop]
        cases s <;> rfl
      · rw [if_neg htop]
        split
        · refine isNaN_unpack_packComponents s _ fun h => htop ?_
          have hexponent := congrArg BitVec.toNat h
          rw [BitVec.toNat_ofNat, Nat.mod_eq_of_lt (by omega)] at hexponent
          exact (congrArg Nat.succ hexponent).ge
        · exact isNaN_unpack_packComponents s _ (by decide)

/-! ## Rounding -/

theorem isNaN_roundWithAccuracy (s : Sign) (m : ℕ) (e : ℤ) (a : Accuracy) :
    (roundWithAccuracy .binary32 s m e a).isNaN = false := by
  unfold roundWithAccuracy
  dsimp only
  split <;> rfl

theorem isNaN_normalize (m e : ℤ) (s : Sign) :
    (UnpackedFloat.normalize .binary32 m e s).isNaN = false := by
  unfold UnpackedFloat.normalize
  split
  · exact isNaN_roundWithAccuracy ..
  · rfl
  · exact isNaN_roundWithAccuracy ..

/-- Digits with an exponent are zero, infinite, or the rounding of a product or of a quotient. -/
theorem isNaN_unpacked_ofScientific (m : ℕ) (e : ℤ) :
    (UnpackedFloat.ofScientific .binary32 m e).isNaN = false := by
  unfold UnpackedFloat.ofScientific
  split
  · rfl
  split
  · rfl
  split
  · rfl
  split
  · exact isNaN_roundWithAccuracy ..
  · exact isNaN_roundWithAccuracy ..

/-! ## Operations -/

/-- Whether a float is a number other than zero. -/
def isNonzero : UnpackedFloat → Bool
  | .finite .. => true
  | .zero _ | .infinity _ | .notANumber => false

section Operations

variable {x y : Float32}

theorem isNaN_neg (x : Float32) : (-x).isNaN = x.isNaN := by
  have hneg : (-x).isNaN = (stored (neg x.toModel.unpack)).isNaN := rfl
  rw [hneg, isNaN_stored]
  show _ = x.toModel.unpack.isNaN
  cases x.toModel.unpack <;> rfl

/-- A sum with an undefined float is undefined. -/
theorem isNaN_add (h : y.isNaN = true) : (x + y).isNaN = true := by
  have hy : y.toModel.unpack = .notANumber := isNaN_iff.1 h
  have hadd : (x + y).isNaN = (add .binary32 x.toModel.unpack y.toModel.unpack).isNaN :=
    isNaN_stored _
  rw [hadd, hy]
  cases x.toModel.unpack <;> rfl

/-- To multiply by a number other than zero makes nothing undefined. -/
theorem isNaN_mul (h : isNonzero y.toModel.unpack = true) : (x * y).isNaN = x.isNaN := by
  have hmul : (x * y).isNaN = (mul .binary32 x.toModel.unpack y.toModel.unpack).isNaN :=
    isNaN_stored _
  rw [hmul]
  show _ = x.toModel.unpack.isNaN
  cases hy : y.toModel.unpack with
  | notANumber | infinity s | zero s => rw [hy] at h; cases h
  | finite s m e hm =>
      cases x.toModel.unpack with
      | notANumber | infinity s' | zero s' => rfl
      | finite s' n f hn => exact isNaN_roundWithAccuracy ..

/-- To divide by a number other than zero makes nothing undefined. -/
theorem isNaN_div (h : isNonzero y.toModel.unpack = true) : (x / y).isNaN = x.isNaN := by
  have hdiv : (x / y).isNaN = (div .binary32 x.toModel.unpack y.toModel.unpack).isNaN :=
    isNaN_stored _
  rw [hdiv]
  show _ = x.toModel.unpack.isNaN
  cases hy : y.toModel.unpack with
  | notANumber | infinity s | zero s => rw [hy] at h; cases h
  | finite s m e hm =>
      cases x.toModel.unpack with
      | notANumber | infinity s' | zero s' => rfl
      | finite s' n f hn => exact isNaN_roundWithAccuracy ..

theorem isNaN_toFloat32 (n : UInt64) : n.toFloat32.isNaN = false := by
  have hstored : n.toFloat32.isNaN = (stored (ofUInt64 .binary32 n)).isNaN := rfl
  rw [hstored, isNaN_stored]
  exact isNaN_normalize ..

theorem isNonzero_powerOfTen :
    ∀ (e : ℕ) (h : e < Float32.exactlyRepresentablePowersOfTen.size),
      isNonzero Float32.exactlyRepresentablePowersOfTen[e].toModel.unpack = true := by
  decide

/-- A number with digits and an exponent is not undefined. -/
theorem isNaN_ofScientific (m : ℕ) (s : Bool) (e : ℕ) :
    (Float32.ofScientific m s e).isNaN = false := by
  unfold Float32.ofScientific
  split
  · -- a short number is divided or multiplied by a power of ten that is exact
    dsimp only
    split
    · rw [isNaN_div (isNonzero_powerOfTen _ _), isNaN_toFloat32]
    · rw [isNaN_mul (isNonzero_powerOfTen _ _), isNaN_toFloat32]
  · show (stored (UnpackedFloat.ofScientific .binary32 m _)).isNaN = false
    rw [isNaN_stored, isNaN_unpacked_ofScientific]

/-! ## Comparisons -/

/-- Among the floats that are not zero or less there are the undefined ones. -/
theorem not_nonpos_iff : ¬ x ≤ 0 ↔ 0 < x ∨ x.isNaN = true := by
  have hle : x ≤ 0 ↔ UnpackedFloat.le x.toModel.unpack (.zero .positive) = true :=
    decide_eq_true_iff
  have hlt : 0 < x ↔ UnpackedFloat.lt (.zero .positive) x.toModel.unpack = true :=
    decide_eq_true_iff
  have hnan : x.isNaN = x.toModel.unpack.isNaN := rfl
  rw [hle, hlt, hnan]
  cases x.toModel.unpack with
  | notANumber => decide
  | zero s | infinity s => cases s <;> decide
  | finite s m e hm =>
      cases s <;> simp [UnpackedFloat.lt, UnpackedFloat.le, UnpackedFloat.compare, isNaN]

theorem not_lt_of_isNaN (h : y.isNaN = true) : ¬ x < y := by
  intro hlt
  have hlt : x.toModel.unpack.lt y.toModel.unpack = true := decide_eq_true_iff.1 hlt
  have hy : y.toModel.unpack = .notANumber := isNaN_iff.1 h
  rw [hy] at hlt
  cases hx : x.toModel.unpack <;> rw [hx] at hlt <;> cases hlt

end Operations

/-- No point lies in an area with an undefined side. -/
theorem Rect.contains_of_isNaN {r : Rect} (h : r.width.isNaN = true ∨ r.height.isNaN = true)
    (p : Point) : r.contains p = false := by
  have hoff : ¬ (p.x < r.x + r.width ∧ p.y < r.y + r.height) := by
    rintro ⟨hx, hy⟩
    rcases h with h | h
    · exact not_lt_of_isNaN (isNaN_add h) hx
    · exact not_lt_of_isNaN (isNaN_add h) hy
  refine Bool.eq_false_iff.2 fun hin => hoff ?_
  simp only [contains, Bool.and_eq_true, decide_eq_true_eq] at hin
  exact ⟨hin.1.1.2, hin.2⟩

end Docking
