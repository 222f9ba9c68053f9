/-!
# Read numbers

A written number is an optional sign, digits with at most one point among or beside them, and an
optional exponent; or one of the words for infinity and for an undefined value, in any case. It is
read into a `Literal`, which is exact, and rounded once to the float that is wanted.
-/

namespace Docking.Decimal

/-- What a written number says. -/
inductive Literal where
  /-- The number `digits · 10 ^ exponent` under its sign. -/
  | number (negative : Bool) (digits : Nat) (exponent : Int)
  | infinity (negative : Bool)
  | undefined
  deriving DecidableEq, Repr

/-- The value of a row of digits. -/
def digitsValue (cs : List Char) : Nat :=
  cs.foldl (fun value c => 10 * value + (c.toNat - '0'.toNat)) 0

/-- The leading digits of a text, and the rest. -/
def takeDigits (cs : List Char) : List Char × List Char :=
  (cs.takeWhile Char.isDigit, cs.dropWhile Char.isDigit)

/-- The sign that a text begins with, and the rest. -/
def takeSign : List Char → Bool × List Char
  | '-' :: rest => (true, rest)
  | '+' :: rest => (false, rest)
  | rest => (false, rest)

/-- The exponent that makes up the whole of a text, from its `e` on. -/
def readExponent : List Char → Option Int
  | [] => some 0
  | c :: rest =>
    if c = 'e' ∨ c = 'E' then
      let (negative, rest) := takeSign rest
      let (digits, rest) := takeDigits rest
      if digits = [] ∨ rest ≠ [] then none
      else some (if negative then -(digitsValue digits : Int) else digitsValue digits)
    else none

/-- An unsigned number that makes up the whole of a text. -/
def readMagnitude (negative : Bool) (cs : List Char) : Option Literal :=
  let (whole, rest) := takeDigits cs
  let (fraction, rest) :=
    match rest with
    | '.' :: rest => takeDigits rest
    | rest => ([], rest)
  if whole = [] ∧ fraction = [] then none
  else (readExponent rest).map fun exponent =>
    .number negative (digitsValue (whole ++ fraction)) (exponent - fraction.length)

/-- A number that makes up the whole of a text. -/
def readLiteral (s : String) : Option Literal :=
  let (negative, rest) := takeSign s.toList
  let word := String.ofList (rest.map Char.toLower)
  if word = "inf" ∨ word = "infinity" then some (.infinity negative)
  else if word = "nan" then some .undefined
  else readMagnitude negative rest

namespace Literal

/-- The nearest 32-bit float. -/
def toFloat32 : Literal → Float32
  | number negative digits exponent =>
    let x := Float32.ofScientific digits (decide (exponent < 0)) exponent.natAbs
    if negative then -x else x
  | infinity negative => if negative then -(1 / 0) else 1 / 0
  | undefined => 0 / 0

/-- The nearest 64-bit float. -/
def toFloat : Literal → Float
  | number negative digits exponent =>
    let x := Float.ofScientific digits (decide (exponent < 0)) exponent.natAbs
    if negative then -x else x
  | infinity negative => if negative then -(1 / 0) else 1 / 0
  | undefined => 0 / 0

end Literal

/-- The whole of a text as a 32-bit float. -/
def readFloat32 (s : String) : Option Float32 := (readLiteral s).map Literal.toFloat32

/-- The nearest 32-bit float of a natural number below `2 ^ 64`. -/
def ofNatural (n : Nat) : Float32 := (UInt64.ofNat n).toFloat32

/-- The nearest 32-bit float of an integer between `-2 ^ 64` and `2 ^ 64`. -/
def ofInteger (i : Int) : Float32 :=
  if i < 0 then -(ofNatural i.natAbs) else ofNatural i.natAbs

end Docking.Decimal
