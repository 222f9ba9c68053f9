/-!
# Points and rectangles

Coordinates are 32-bit floats and each operation rounds once. Comparisons are the floats' own, so an
undefined coordinate is inside no rectangle and passes no threshold.
-/

namespace Docking

/-- A position. -/
structure Point where
  x : Float32
  y : Float32
  deriving DecidableEq

/-- An area, by its top left corner and its size. -/
structure Rect where
  x : Float32
  y : Float32
  width : Float32
  height : Float32
  deriving DecidableEq

namespace Point

/-- Whether a point lies outside the square of half-width `threshold` around `origin`. The border
does not count as outside. -/
def exceeds (p origin : Point) (threshold : Float32) : Bool :=
  decide ((p.x - origin.x).abs > threshold) || decide ((p.y - origin.y).abs > threshold)

end Point

namespace Rect

/-- The area of no size at the origin, which a layout has before its first viewport. -/
def zero : Rect := ⟨0, 0, 0, 0⟩

/-- An area of the given size at the origin. -/
def atOrigin (width height : Float32) : Rect := ⟨0, 0, width, height⟩

/-- Whether a point lies in an area. The left and top borders belong to it, the right and bottom
ones do not. -/
def contains (r : Rect) (p : Point) : Bool :=
  decide (p.x ≥ r.x) && decide (p.x < r.x + r.width) &&
    decide (p.y ≥ r.y) && decide (p.y < r.y + r.height)

/-- A position as shares of the width and the height, measured from the top left corner. An area
without a size has no shares. -/
def fractions (r : Rect) (p : Point) : Option (Float32 × Float32) :=
  if r.width ≤ 0 ∨ r.height ≤ 0 then none
  else some ((p.x - r.x) / r.width, (p.y - r.y) / r.height)

/-- Divides an area into a left part that has `ratio` of the width, and the rest. -/
def splitColumns (r : Rect) (ratio : Float32) : Rect × Rect :=
  let left := r.width * ratio
  (⟨r.x, r.y, left, r.height⟩, ⟨r.x + left, r.y, r.width - left, r.height⟩)

/-- Divides an area into an upper part that has `ratio` of the height, and the rest. -/
def splitRows (r : Rect) (ratio : Float32) : Rect × Rect :=
  let top := r.height * ratio
  (⟨r.x, r.y, r.width, top⟩, ⟨r.x, r.y + top, r.width, r.height - top⟩)

end Rect

end Docking
