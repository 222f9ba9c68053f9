import Docking.Proofs.Geometry.Value
import Docking.Split
import Mathlib.Data.Option.NAry
import Mathlib.Tactic.Linarith

/-!
# Where a split divides its area

An area reaches from its left and top borders, which belong to it, to its right and bottom ones,
which do not. By the numbers for which its coordinates stand, this is a product of two half-open
stretches. A split cuts one of the two in two and leaves the other as it is. As long as nothing is
rounded, each point of the area is then in exactly one of the two parts, also if the area has no
points because a size is negative.

## Main definitions

* `Exact`: an operation on floats had an exact result.
* `Rect.ExactExtent`, `Split.DividesExactly`: what is computed for an area, and for a split, is
  exact.
* `Rect.Spans`: a point lies in an area by the numbers.

## Main results

* `Rect.contains_iff_spans`: the floats' own test agrees with the numbers.
* `Split.spans_childRects`: a point of the area of a split lies in exactly one of its parts.
-/

namespace Docking

section Exact

variable {f : ℚ → ℚ → ℚ} {x y z : Float32}

/-- The float `z` is the exact result of an operation on `x` and `y`: all of them are numbers, and
nothing was rounded. -/
def Exact (f : ℚ → ℚ → ℚ) (x y z : Float32) : Prop :=
  (number? z).isSome ∧ number? z = Option.map₂ f (number? x) (number? y)

instance : Decidable (Exact f x y z) := inferInstanceAs (Decidable (_ ∧ _))

theorem Exact.exists_numbers (h : Exact f x y z) :
    ∃ a b, number? x = some a ∧ number? y = some b ∧ number? z = some (f a b) := by
  obtain ⟨hnumber, hresult⟩ := h
  obtain ⟨c, hc⟩ := Option.isSome_iff_exists.1 hnumber
  rw [hc] at hresult
  obtain ⟨a, b, ha, hb, rfl⟩ := Option.map₂_eq_some_iff.1 hresult.symm
  exact ⟨a, b, ha, hb, hc⟩

end Exact

/-! ## Stretches -/

section Stretch

variable {start size share part mid rest p : Float32}

/-- A coordinate lies in the stretch that begins at `start` and has the length `size`. -/
def InStretch (start size p : Float32) : Prop :=
  ∃ a w q, number? start = some a ∧ number? size = some w ∧ number? p = some q ∧ a ≤ q ∧ q < a + w

theorem inStretch_iff {a w q : ℚ} (ha : number? start = some a) (hw : number? size = some w)
    (hq : number? p = some q) : InStretch start size p ↔ a ≤ q ∧ q < a + w := by
  constructor
  · rintro ⟨a', w', q', ha', hw', hq', h⟩
    rw [ha, Option.some_inj] at ha'
    rw [hw, Option.some_inj] at hw'
    rw [hq, Option.some_inj] at hq'
    rwa [ha', hw', hq']
  · exact fun h => ⟨a, w, q, ha, hw, hq, h⟩

/-- The floats' own comparisons with the two ends of a stretch. -/
theorem between_iff_inStretch (h : Exact (· + ·) start size (start + size)) :
    (start ≤ p ∧ p < start + size) ↔ InStretch start size p := by
  obtain ⟨a, w, ha, hw, hsum⟩ := h.exists_numbers
  constructor
  · rintro ⟨hle, hlt⟩
    obtain ⟨q, hq⟩ := exists_number_of_between ha hsum hle hlt
    exact (inStretch_iff ha hw hq).2 ⟨(le_iff ha hq).1 hle, (lt_iff hq hsum).1 hlt⟩
  · intro hin
    obtain ⟨-, -, q, -, -, hq, -⟩ := id hin
    obtain ⟨hle, hlt⟩ := (inStretch_iff ha hw hq).1 hin
    exact ⟨(le_iff ha hq).2 hle, (lt_iff hq hsum).2 hlt⟩

/-- What holds in a whole holds in exactly one of two halves, and what does not, in neither. -/
def Halves (whole first second : Prop) : Prop := (whole ↔ first ∨ second) ∧ ¬ (first ∧ second)

theorem Halves.and_left {whole first second : Prop} (h : Halves whole first second) (c : Prop) :
    Halves (c ∧ whole) (c ∧ first) (c ∧ second) := by
  refine ⟨?_, fun hboth => h.2 ⟨hboth.1.2, hboth.2.2⟩⟩
  rw [h.1, and_or_left]

theorem Halves.and_right {whole first second : Prop} (h : Halves whole first second) (c : Prop) :
    Halves (whole ∧ c) (first ∧ c) (second ∧ c) := by
  refine ⟨?_, fun hboth => h.2 ⟨hboth.1.1, hboth.2.1⟩⟩
  rw [h.1, or_and_right]

/-- A cut at a share between nothing and everything. A stretch of negative length has no points, and
neither have its parts. -/
theorem halves_inStretch {σ : ℚ} (hshare : number? share = some σ) (h0 : 0 ≤ σ) (h1 : σ ≤ 1)
    (hpart : Exact (· * ·) size share part) (hmid : Exact (· + ·) start part mid)
    (hrest : Exact (· - ·) size part rest) (p : Float32) :
    Halves (InStretch start size p) (InStretch start part p) (InStretch mid rest p) := by
  obtain ⟨w, σ', hw, hσ', hpart⟩ := hpart.exists_numbers
  obtain rfl : σ = σ' := Option.some.inj (hshare.symm.trans hσ')
  obtain ⟨a, v, ha, hv, hmid⟩ := hmid.exists_numbers
  obtain rfl : w * σ = v := Option.some.inj (hpart.symm.trans hv)
  obtain ⟨w', v, hw', hv', hrest⟩ := hrest.exists_numbers
  obtain rfl : w = w' := Option.some.inj (hw.symm.trans hw')
  obtain rfl : w * σ = v := Option.some.inj (hv.symm.trans hv')
  cases hp : number? p with
  | none =>
      have hnone : ∀ start size, ¬ InStretch start size p := by
        rintro start size ⟨-, -, q, -, -, hq, -⟩
        rw [hp] at hq
        cases hq
      exact ⟨iff_of_false (hnone _ _) (not_or.2 ⟨hnone _ _, hnone _ _⟩), fun h => hnone _ _ h.1⟩
  | some q =>
      rw [inStretch_iff ha hw hp, inStretch_iff ha hpart hp, inStretch_iff hmid hrest hp]
      have hlength : a + w * σ + (w - w * σ) = a + w := by ring
      rw [hlength]
      refine ⟨?_, fun h => absurd h.1.2 (not_lt.2 h.2.1)⟩
      rcases le_total 0 w with hpos | hneg
      · have hfirst : 0 ≤ w * σ := mul_nonneg hpos h0
        have hsecond : w * σ ≤ w := mul_le_of_le_one_right hpos h1
        constructor
        · rintro ⟨hle, hlt⟩
          rcases lt_or_ge q (a + w * σ) with h | h
          · exact .inl ⟨hle, h⟩
          · exact .inr ⟨h, hlt⟩
        · rintro (⟨hle, hlt⟩ | ⟨hle, hlt⟩)
          · exact ⟨hle, by linarith⟩
          · exact ⟨by linarith, hlt⟩
      · have hfirst : w * σ ≤ 0 := mul_nonpos_of_nonpos_of_nonneg hneg h0
        have hsecond : w ≤ w * σ := le_mul_of_le_one_right hneg h1
        constructor
        · rintro ⟨hle, hlt⟩
          linarith
        · rintro (⟨hle, hlt⟩ | ⟨hle, hlt⟩)
          · linarith
          · linarith

end Stretch

/-! ## Areas -/

namespace Rect

/-- The right and the bottom border of an area are computed without rounding. -/
structure ExactExtent (r : Rect) : Prop where
  right : Exact (· + ·) r.x r.width (r.x + r.width)
  bottom : Exact (· + ·) r.y r.height (r.y + r.height)

instance (r : Rect) : Decidable r.ExactExtent :=
  decidable_of_iff (Exact (· + ·) r.x r.width (r.x + r.width) ∧
    Exact (· + ·) r.y r.height (r.y + r.height)) ⟨fun h => ⟨h.1, h.2⟩, fun h => ⟨h.1, h.2⟩⟩

/-- A point lies in an area by the numbers. -/
def Spans (r : Rect) (p : Point) : Prop := InStretch r.x r.width p.x ∧ InStretch r.y r.height p.y

theorem contains_iff_spans {r : Rect} (h : r.ExactExtent) (p : Point) :
    r.contains p = true ↔ r.Spans p := by
  rw [Spans, ← between_iff_inStretch h.right, ← between_iff_inStretch h.bottom]
  simp only [contains, Bool.and_eq_true, decide_eq_true_eq, and_assoc]

end Rect

namespace Split

/-- The areas of the two parts are computed without rounding. -/
def DividesExactly (s : Split) (r : Rect) : Prop :=
  let share := clampShare s.ratio
  match s.orientation with
  | .row =>
    Exact (· * ·) r.width share (r.width * share) ∧
      Exact (· + ·) r.x (r.width * share) (r.x + r.width * share) ∧
      Exact (· - ·) r.width (r.width * share) (r.width - r.width * share)
  | .column =>
    Exact (· * ·) r.height share (r.height * share) ∧
      Exact (· + ·) r.y (r.height * share) (r.y + r.height * share) ∧
      Exact (· - ·) r.height (r.height * share) (r.height - r.height * share)

instance (s : Split) (r : Rect) : Decidable (s.DividesExactly r) :=
  match s with
  | ⟨.row, _, _⟩ => inferInstanceAs (Decidable (_ ∧ _ ∧ _))
  | ⟨.column, _, _⟩ => inferInstanceAs (Decidable (_ ∧ _ ∧ _))

/-- A share that stands for a number is kept between nothing and everything. -/
theorem clampShare_bounds {ratio : Float32} {σ : ℚ} (h : number? (clampShare ratio) = some σ) :
    0 ≤ σ ∧ σ ≤ 1 := by
  have h0 : number? 0 = some 0 := by decide +kernel
  have h1 : number? 1 = some 1 := by decide +kernel
  unfold clampShare at h
  split at h
  · rw [h0, Option.some_inj] at h
    exact h ▸ ⟨le_refl 0, zero_le_one⟩
  · next hlow =>
    split at h
    · rw [h1, Option.some_inj] at h
      exact h ▸ ⟨zero_le_one, le_refl 1⟩
    · next hhigh =>
      exact ⟨not_lt.1 fun hlt => hlow ((lt_iff h h0).2 hlt),
        not_lt.1 fun hlt => hhigh ((lt_iff h1 h).2 hlt)⟩

/-- A point of the area of a split lies in exactly one of its parts, and a point elsewhere in
neither. -/
theorem spans_childRects {s : Split} {r : Rect} (h : s.DividesExactly r) (p : Point) :
    Halves (r.Spans p) ((s.childRects r).1.Spans p) ((s.childRects r).2.Spans p) := by
  obtain ⟨o, ratio, children⟩ := s
  cases o with
  | row =>
      obtain ⟨hpart, hmid, hrest⟩ := h
      obtain ⟨-, σ, -, hshare, -⟩ := hpart.exists_numbers
      obtain ⟨h0, h1⟩ := clampShare_bounds hshare
      exact (halves_inStretch hshare h0 h1 hpart hmid hrest p.x).and_right _
  | column =>
      obtain ⟨hpart, hmid, hrest⟩ := h
      obtain ⟨-, σ, -, hshare, -⟩ := hpart.exists_numbers
      obtain ⟨h0, h1⟩ := clampShare_bounds hshare
      exact (halves_inStretch hshare h0 h1 hpart hmid hrest p.y).and_left _

end Split

end Docking
