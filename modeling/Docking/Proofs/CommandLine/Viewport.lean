import Docking.CommandLine.Viewport
import Docking.Proofs.Geometry.Undefined

/-!
# Positive viewports

A size is divided at its first `x`, and both sides are read as floats. A size with a side that is
zero or less is refused. A side that says that it is undefined is neither, so it is let through.

## Main definitions

* `Decimal.SaysUndefined`: a text says "nan".
* `Divides`: the texts before and behind the first `x`.
* `Slips`: the sizes that are let through although they are not positive.

## Main results

* `isNaN_readFloat32_iff`: only what says "nan" is read as an undefined float.
* `Slips.contains_eq_false`: no point lies in the area of a size that slips.
* `readViewport_positive_iff`: what is let through is positive exactly if no side is undefined.
-/

namespace Docking

/-! ## Undefined numbers -/

namespace Decimal

/-- A text that consists of an optional sign and "nan" in any case. -/
def SaysUndefined (s : String) : Prop :=
  ∃ sign word : List Char, sign ∈ [[], ['-'], ['+']] ∧ s.toList = sign ++ word ∧
    word.map Char.toLower = ['n', 'a', 'n']

theorem takeSign_spec (cs : List Char) :
    ∃ sign ∈ [[], ['-'], ['+']], cs = sign ++ (takeSign cs).2 := by
  unfold takeSign
  split
  · exact ⟨['-'], by simp, rfl⟩
  · exact ⟨['+'], by simp, rfl⟩
  · exact ⟨[], by simp, rfl⟩

/-- Behind a sign there remains the word, unless it begins with a sign itself. -/
theorem takeSign_append {sign word : List Char} (hsign : sign ∈ [[], ['-'], ['+']])
    (hminus : ∀ rest, word ≠ '-' :: rest) (hplus : ∀ rest, word ≠ '+' :: rest) :
    (takeSign (sign ++ word)).2 = word := by
  simp only [List.mem_cons, List.not_mem_nil, or_false] at hsign
  rcases hsign with rfl | rfl | rfl
  · rw [List.nil_append]
    unfold takeSign
    split
    · exact absurd rfl (hminus _)
    · exact absurd rfl (hplus _)
    · rfl
  · rfl
  · rfl

/-- Digits are no undefined number. -/
theorem readMagnitude_ne_undefined (negative : Bool) (cs : List Char) :
    readMagnitude negative cs ≠ some .undefined := by
  unfold readMagnitude
  dsimp only
  split
  · simp
  · simp

theorem readLiteral_eq_undefined_iff {s : String} :
    readLiteral s = some .undefined ↔ SaysUndefined s := by
  constructor
  · intro h
    obtain ⟨sign, hsign, hs⟩ := takeSign_spec s.toList
    refine ⟨sign, (takeSign s.toList).2, hsign, hs, ?_⟩
    unfold readLiteral at h
    cases htake : takeSign s.toList with
    | mk negative rest =>
        rw [htake] at h
        dsimp only at h
        split at h
        · cases h
        · split at h
          · next hword => exact String.ofList_injective hword
          · exact absurd h (readMagnitude_ne_undefined negative rest)
  · rintro ⟨sign, word, hsign, hs, hword⟩
    have hrest : (takeSign s.toList).2 = word := by
      rw [hs]
      refine takeSign_append hsign ?_ ?_
      · rintro rest rfl
        exact absurd (List.cons.inj hword).1 (by decide)
      · rintro rest rfl
        exact absurd (List.cons.inj hword).1 (by decide)
    unfold readLiteral
    cases htake : takeSign s.toList with
    | mk negative rest =>
        rw [htake] at hrest
        subst hrest
        dsimp only
        rw [hword]
        rfl

/-- A number is read as undefined only if it says so. -/
theorem isNaN_toFloat32_iff {l : Literal} : l.toFloat32.isNaN = true ↔ l = .undefined := by
  cases l with
  | number negative digits exponent =>
      have hdigits := isNaN_ofScientific digits (decide (exponent < 0)) exponent.natAbs
      have hnumber : (Literal.number negative digits exponent).toFloat32.isNaN = false := by
        cases negative with
        | false => exact hdigits
        | true => exact (isNaN_neg _).trans hdigits
      rw [hnumber]
      exact ⟨nofun, nofun⟩
  | infinity negative =>
      have hinfinity : (Literal.infinity negative).toFloat32.isNaN = false := by
        cases negative <;> rfl
      rw [hinfinity]
      exact ⟨nofun, nofun⟩
  | undefined => exact ⟨fun _ => rfl, fun _ => rfl⟩

theorem isNaN_readFloat32_iff {s : String} {x : Float32} (h : readFloat32 s = some x) :
    x.isNaN = true ↔ SaysUndefined s := by
  obtain ⟨l, hread, rfl⟩ := Option.map_eq_some_iff.1 h
  rw [isNaN_toFloat32_iff, ← readLiteral_eq_undefined_iff, hread, Option.some_inj]

/-- What says that it is undefined can be read. -/
theorem SaysUndefined.readFloat32 {s : String} (h : SaysUndefined s) :
    ∃ x, Decimal.readFloat32 s = some x ∧ x.isNaN = true := by
  have hread := readLiteral_eq_undefined_iff.2 h
  exact ⟨_, congrArg (Option.map Literal.toFloat32) hread, isNaN_toFloat32_iff.2 rfl⟩

end Decimal

/-! ## Sizes -/

namespace CommandLine

/-- The texts before and behind the first `x`, in either case, of a text. -/
def Divides (s w h : String) : Prop :=
  ∃ c, isTimes c = true ∧ s.toList = w.toList ++ c :: h.toList ∧
    ∀ d ∈ w.toList, isTimes d = false

theorem splitSize_eq_some_iff {s w h : String} : splitSize s = some (w, h) ↔ Divides s w h := by
  have hparts := List.takeWhile_append_dropWhile (p := fun c => !isTimes c) (l := s.toList)
  unfold splitSize
  rw [List.span_eq_takeWhile_dropWhile]
  constructor
  · intro hsplit
    cases hdrop : s.toList.dropWhile fun c => !isTimes c with
    | nil => rw [hdrop] at hsplit; cases hsplit
    | cons c rest =>
        rw [hdrop] at hsplit hparts
        cases hsplit
        refine ⟨c, ?_, ?_, fun d hd => ?_⟩
        · have hfind : s.toList.find? isTimes = some c := by
            rw [List.find?_eq_head?_dropWhile_not, hdrop, List.head?_cons]
          exact List.find?_some hfind
        · rw [String.toList_ofList, String.toList_ofList, hparts]
        · rw [String.toList_ofList] at hd
          have hfront := List.mem_takeWhile_imp hd
          exact Bool.not_eq_eq_eq_not.1 hfront
  · rintro ⟨c, hc, hs, hw⟩
    have hfront : ∀ d ∈ w.toList, (fun c => !isTimes c) d = true := by simpa using hw
    rw [hs, List.takeWhile_append_of_pos hfront, List.dropWhile_append_of_pos hfront]
    simp [hc]

/-! ## Viewports -/

/-- A side of a size that says "nan", with white space around it or without. -/
def Undefined (t : String) : Prop := Decimal.SaysUndefined (Text.trim t)

/-- A side of a size that is read as a positive float. -/
def Positive (t : String) : Prop := ∃ x, Decimal.readFloat32 (Text.trim t) = some x ∧ 0 < x

/-- A size with an undefined side, where what is not undefined is positive. -/
def Slips (s : String) : Prop :=
  ∃ w h, Divides s w h ∧ (Undefined w ∨ Positive w) ∧ (Undefined h ∨ Positive h) ∧
    (Undefined w ∨ Undefined h)

section Sides

variable {s t : String} {x : Float32} {area : Rect}

theorem positive_iff (hread : Decimal.readFloat32 (Text.trim t) = some x) :
    Positive t ↔ 0 < x := by
  constructor
  · rintro ⟨y, hy, hpos⟩
    obtain rfl : x = y := Option.some_inj.1 (hread.symm.trans hy)
    exact hpos
  · intro hpos
    exact ⟨x, hread, hpos⟩

/-- Sides that are undefined pass the check that is meant for positive ones. -/
theorem passes_iff (hread : Decimal.readFloat32 (Text.trim t) = some x) :
    ¬ x ≤ 0 ↔ Undefined t ∨ Positive t := by
  rw [not_nonpos_iff, positive_iff hread, Undefined, ← Decimal.isNaN_readFloat32_iff hread,
    or_comm]

theorem exists_read (h : Undefined t ∨ Positive t) :
    ∃ x, Decimal.readFloat32 (Text.trim t) = some x := by
  rcases h with hundefined | ⟨x, hread, -⟩
  · obtain ⟨x, hread, -⟩ := hundefined.readFloat32
    exact ⟨x, hread⟩
  · exact ⟨x, hread⟩

/-- What is let through is the area of a size of which no side is known to be zero or less. -/
theorem readViewport_eq_ok_iff :
    readViewport s = .ok area ↔ ∃ w h width height, Divides s w h ∧
      Decimal.readFloat32 (Text.trim w) = some width ∧
      Decimal.readFloat32 (Text.trim h) = some height ∧
      ¬ width ≤ 0 ∧ ¬ height ≤ 0 ∧ area = .atOrigin width height := by
  constructor
  · intro hok
    unfold readViewport at hok
    split at hok
    · cases hok
    · next w h hsplit =>
        split at hok
        · cases hok
        · cases hok
        · next width height hwidth hheight =>
            split at hok
            · cases hok
            · next hcheck =>
                cases hok
                obtain ⟨hw, hh⟩ := not_or.1 hcheck
                exact ⟨w, h, width, height, splitSize_eq_some_iff.1 hsplit, hwidth, hheight,
                  hw, hh, rfl⟩
  · rintro ⟨w, h, width, height, hdivides, hwidth, hheight, hw, hh, rfl⟩
    unfold readViewport
    rw [splitSize_eq_some_iff.2 hdivides]
    dsimp only
    rw [hwidth, hheight]
    exact if_neg (not_or.2 ⟨hw, hh⟩)

/-- A size slips exactly if it is let through with a side that is undefined. -/
theorem slips_iff :
    Slips s ↔ ∃ area, readViewport s = .ok area ∧
      (area.width.isNaN = true ∨ area.height.isNaN = true) := by
  constructor
  · rintro ⟨w, h, hdivides, hw, hh, hundefined⟩
    obtain ⟨width, hwidth⟩ := exists_read hw
    obtain ⟨height, hheight⟩ := exists_read hh
    have hok : readViewport s = .ok (.atOrigin width height) :=
      readViewport_eq_ok_iff.2 ⟨w, h, width, height, hdivides, hwidth, hheight,
        (passes_iff hwidth).2 hw, (passes_iff hheight).2 hh, rfl⟩
    exact ⟨_, hok, hundefined.imp (Decimal.isNaN_readFloat32_iff hwidth).2
      (Decimal.isNaN_readFloat32_iff hheight).2⟩
  · rintro ⟨area, hok, hnan⟩
    obtain ⟨w, h, width, height, hdivides, hwidth, hheight, hw, hh, rfl⟩ :=
      readViewport_eq_ok_iff.1 hok
    exact ⟨w, h, hdivides, (passes_iff hwidth).1 hw, (passes_iff hheight).1 hh,
      hnan.imp (Decimal.isNaN_readFloat32_iff hwidth).1
        (Decimal.isNaN_readFloat32_iff hheight).1⟩

/-- A size that slips has an area in which there is no point. -/
theorem Slips.contains_eq_false (h : Slips s) :
    ∃ area, readViewport s = .ok area ∧ ∀ p, area.contains p = false := by
  obtain ⟨area, hok, hnan⟩ := slips_iff.1 h
  exact ⟨area, hok, Rect.contains_of_isNaN hnan⟩

/-- The areas that are let through are at the origin, and no side is known to be zero or less. -/
theorem sides_of_readViewport_eq_ok (hok : readViewport s = .ok area) :
    area.x = 0 ∧ area.y = 0 ∧ (0 < area.width ∨ area.width.isNaN = true) ∧
      (0 < area.height ∨ area.height.isNaN = true) := by
  obtain ⟨w, h, width, height, -, -, -, hw, hh, rfl⟩ := readViewport_eq_ok_iff.1 hok
  exact ⟨rfl, rfl, not_nonpos_iff.1 hw, not_nonpos_iff.1 hh⟩

end Sides

/-- What is let through is an area at the origin with sides that are positive or undefined, and they
are positive unless the size says that one of them is undefined. -/
theorem readViewport_positive_iff (s : String) :
    (∀ area, readViewport s = .ok area → area.x = 0 ∧ area.y = 0 ∧
      (0 < area.width ∨ area.width.isNaN = true) ∧
      (0 < area.height ∨ area.height.isNaN = true)) ∧
    ((∀ area, readViewport s = .ok area →
      area.x = 0 ∧ area.y = 0 ∧ 0 < area.width ∧ 0 < area.height) ↔ ¬ Slips s) := by
  refine ⟨fun area hok => sides_of_readViewport_eq_ok hok, ?_, ?_⟩
  · intro hall hslips
    obtain ⟨area, hok, hnan⟩ := slips_iff.1 hslips
    obtain ⟨-, -, hwidth, hheight⟩ := hall area hok
    rcases hnan with hnan | hnan
    · exact not_lt_of_isNaN hnan hwidth
    · exact not_lt_of_isNaN hnan hheight
  · intro hslips area hok
    obtain ⟨hx, hy, hwidth, hheight⟩ := sides_of_readViewport_eq_ok hok
    refine ⟨hx, hy, hwidth.resolve_right ?_, hheight.resolve_right ?_⟩
    · intro hnan
      exact hslips (slips_iff.2 ⟨area, hok, .inl hnan⟩)
    · intro hnan
      exact hslips (slips_iff.2 ⟨area, hok, .inr hnan⟩)

/-- The size "nanx100" slips, so what is read of it is not positive. -/
theorem undefinedWidth_slips :
    Slips "nanx100" ∧ ¬ ∀ area, readViewport "nanx100" = .ok area →
      area.x = 0 ∧ area.y = 0 ∧ 0 < area.width ∧ 0 < area.height := by
  have hslips : Slips "nanx100" := by
    refine ⟨"nan", "100", ⟨'x', rfl, rfl, by simp [isTimes]⟩, .inl ?_, .inr ?_, .inl ?_⟩
    · exact ⟨[], ['n', 'a', 'n'], by decide, by decide, by decide⟩
    · exact ⟨_, rfl, by decide⟩
    · exact ⟨[], ['n', 'a', 'n'], by decide, by decide, by decide⟩
  exact ⟨hslips, fun hall => (readViewport_positive_iff _).2.1 hall hslips⟩

end CommandLine

end Docking
