/-!
# Shortest decimals

The shortest decimal of a binary number is the one with the fewest digits that lies closer to the
number than to its neighbours, so that it reads back as the same number; among those of that length
it is the nearest one. Where two are equally near, the caller says which one to take.

The number is `m · 2 ^ q`. The decimals that read back form an interval whose ends belong to it iff
`m` is even. For one digit, two digits, and so on, the two neighbours of the number on that decimal
grid are tested in exact arithmetic: if any point of a grid lies in the interval, one of these two
does.

## Main definitions

* `Binary`: a positive number `m · 2 ^ q` with the distance to its lower neighbour.
* `Binary.shortest`: its shortest decimal.
-/

namespace Docking.Decimal

/-- The decimal number `digits · 10 ^ exponent`. -/
structure Scaled where
  digits : Nat
  exponent : Int
  deriving DecidableEq, Repr

/-- Which of two equally near decimals to take. -/
inductive Tie where
  /-- The larger one. -/
  | up
  /-- The one whose last digit is even. -/
  | even
  deriving DecidableEq, Repr

/-- A positive binary number `significand · 2 ^ exponent`, whose upper neighbour is one unit of
`2 ^ exponent` away. -/
structure Binary where
  significand : Nat
  exponent : Int
  /-- The lower neighbour is only half a unit away. -/
  closeBelow : Bool
  deriving DecidableEq, Repr

/-- What a power of `base` multiplies by, if its exponent is positive. -/
def gain (base : Nat) (e : Int) : Nat := Nat.pow base e.toNat

/-- What a power of `base` divides by, if its exponent is negative. -/
def loss (base : Nat) (e : Int) : Nat := Nat.pow base (-e).toNat

/-- Compares `a · 2 ^ p` with `b · 10 ^ k`. -/
def compareScaled (a : Nat) (p : Int) (b : Nat) (k : Int) : Ordering :=
  compare (a * gain 2 p * loss 10 k) (b * gain 10 k * loss 2 p)

/-- The whole part of `a · 2 ^ p / 10 ^ k`. -/
def quotient (a : Nat) (p k : Int) : Nat :=
  a * gain 2 p * loss 10 k / (gain 10 k * loss 2 p)

/-- The number of decimal digits of a number, at least one. -/
def digitCount (n : Nat) : Nat := (Nat.toDigits 10 n).length

namespace Binary

/-- Whether `d · 10 ^ k` lies in the interval of numbers that round to `b`. The ends of the interval
are half way to the neighbours, which is a whole number of quarter units. -/
def covers (b : Binary) (d : Nat) (k : Int) : Bool :=
  let quarter := b.exponent - 2
  let low := 4 * b.significand - if b.closeBelow then 1 else 2
  let high := 4 * b.significand + 2
  let closed := b.significand % 2 == 0
  let aboveLow := compareScaled low quarter d k
  let belowHigh := compareScaled high quarter d k
  (aboveLow == .lt || (closed && aboveLow == .eq)) &&
    (belowHigh == .gt || (closed && belowHigh == .eq))

/-- The position of the leading digit: `b` lies between `10 ^ k` and `10 ^ (k + 1)` for this `k`.
Numbers down to `10 ^ (-60)` are placed. -/
def magnitude (b : Binary) : Int :=
  digitCount (quotient b.significand b.exponent (-60)) - 61

/-- The nearer of `low · 10 ^ k` and `(low + 1) · 10 ^ k`. -/
def nearer (b : Binary) (tie : Tie) (low : Nat) (k : Int) : Nat :=
  match compareScaled (2 * b.significand) b.exponent (2 * low + 1) k with
  | .lt => low
  | .gt => low + 1
  | .eq =>
    match tie with
    | .up => low + 1
    | .even => if low % 2 = 0 then low else low + 1

/-- The best decimal with `count` digits that reads back as `b`. -/
def withDigits (b : Binary) (tie : Tie) (count : Nat) : Option Scaled :=
  let k := b.magnitude + 1 - count
  let low := quotient b.significand b.exponent k
  match b.covers low k, b.covers (low + 1) k with
  | true, true => some ⟨b.nearer tie low k, k⟩
  | true, false => some ⟨low, k⟩
  | false, true => some ⟨low + 1, k⟩
  | false, false => none

end Binary

/-- Takes up to `fuel` zeros off the end of the digits. -/
def dropZeros : (fuel : Nat) → Scaled → Scaled
  | 0, d => d
  | fuel + 1, d =>
    if d.digits ≠ 0 ∧ d.digits % 10 = 0 then dropZeros fuel ⟨d.digits / 10, d.exponent + 1⟩ else d

/-- The shortest decimal of a number. Seventeen digits are enough for every number of up to 53
significant bits. -/
def Binary.shortest (b : Binary) (tie : Tie) : Scaled :=
  let found := (List.range 17).findSome? fun n => b.withDigits tie (n + 1)
  dropZeros 17 (found.getD ⟨0, 0⟩)

end Docking.Decimal
