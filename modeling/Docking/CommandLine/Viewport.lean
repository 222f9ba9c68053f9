import Docking.Decimal.Reading
import Docking.Geometry
import Docking.Text.Blank

/-!
# Viewport sizes

The size of the docking area is given as a width and a height with an `x` between them.
-/

namespace Docking.CommandLine

/-- What is wrong with the size of a viewport. -/
inductive SizeError where
  /-- There is no `x`. -/
  | malformed (text : String)
  | width (text : String)
  | height (text : String)
  | notPositive (text : String)
  deriving DecidableEq, Repr

/-- The wording of a wrong size. -/
def SizeError.message : SizeError → String
  | malformed s => s!"Invalid viewport '{s}': expected WxH"
  | width s => s!"Invalid viewport width '{s}'"
  | height s => s!"Invalid viewport height '{s}'"
  | notPositive s => s!"Viewport must be positive, got {s}"

/-- Whether a character divides the width from the height. -/
def isTimes (c : Char) : Bool := c = 'x' || c = 'X'

/-- The texts before and behind the first `x`. -/
def splitSize (s : String) : Option (String × String) :=
  match s.toList.span fun c => !isTimes c with
  | (_, []) => none
  | (width, _ :: height) => some (String.ofList width, String.ofList height)

/-- The area of a size, at the origin. Only a number that is known to be zero or less is refused. -/
def readViewport (s : String) : Except SizeError Rect :=
  match splitSize s with
  | none => .error (.malformed s)
  | some (w, h) =>
    match Decimal.readFloat32 (Text.trim w), Decimal.readFloat32 (Text.trim h) with
    | none, _ => .error (.width w)
    | some _, none => .error (.height h)
    | some width, some height =>
      if width ≤ 0 ∨ height ≤ 0 then .error (.notPositive s) else .ok (.atOrigin width height)

end Docking.CommandLine
