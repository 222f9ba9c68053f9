import Docking.Decimal.Reading
import Docking.Text.Hex

/-!
# Plain scalars

A scalar that is written without quotes is more than a text if it has the form of a null, a truth
value or a number.

## Main definitions

* `Plain`, `Plain.ofText`: what a plain scalar is.
* `readFloat`: the forms of floats.
* `hasLeadingZero`: digits that do not count as a number.
-/

namespace Docking.Yaml

/-- What a plain scalar is. -/
inductive Plain where
  | null
  | bool (value : Bool)
  /-- An integer from zero to below `2 ^ 64`. -/
  | natural (value : Nat)
  /-- An integer with a minus sign, from `-2 ^ 63` on. -/
  | negative (value : Int)
  /-- An integer beyond those, of at most 128 bits. -/
  | oversized
  | float (value : Float)
  | text

/-- A text without one sign in front of it. -/
def dropSign : List Char → List Char
  | '+' :: rest => rest
  | '-' :: rest => rest
  | cs => cs

/-- Whether a text begins with a sign. -/
def isSigned : List Char → Bool
  | '+' :: _ => true
  | '-' :: _ => true
  | _ => false

/-- Whether a text is more than one digit and begins with a zero. Such a text is no number. -/
def hasLeadingZero (cs : List Char) : Bool :=
  match dropSign cs with
  | '0' :: rest => !rest.isEmpty && rest.all Char.isDigit
  | _ => false

/-- The value of a digit to some base up to sixteen. -/
def digitValue? (base : Nat) (c : Char) : Option Nat :=
  (Text.hexValue? c).filter (· < base)

/-- The value of a row of digits to some base. -/
def readDigits (base : Nat) (cs : List Char) : Option Nat :=
  if cs.isEmpty then none
  else cs.foldlM (fun value c => (digitValue? base c).map fun d => value * base + d) 0

/-- An unsigned integer with the mark of another base in front of it. -/
def readBased? : List Char → Option Nat
  | '0' :: 'x' :: rest => readDigits 16 rest
  | '0' :: 'o' :: rest => readDigits 8 rest
  | '0' :: 'b' :: rest => readDigits 2 rest
  | _ => none

/-- An unsigned integer. -/
def readMagnitude? (cs : List Char) : Option Nat :=
  match readBased? cs with
  | some n => some n
  | none => if hasLeadingZero cs then none else readDigits 10 cs

/-- An integer: whether it has a minus sign, and its size. -/
def readInteger? : List Char → Option (Bool × Nat)
  | '-' :: rest => (readMagnitude? rest).map (true, ·)
  | '+' :: rest => (readMagnitude? rest).map (false, ·)
  | cs => (readMagnitude? cs).map (false, ·)

/-- The integer of a sign and a size, as far as it can be kept. -/
def Plain.ofInteger? : Bool × Nat → Option Plain
  | (false, n) =>
    if n < UInt64.size then some (.natural n)
    else if n < UInt64.size * UInt64.size then some .oversized
    else none
  | (true, n) =>
    if n ≤ UInt64.size / 2 then some (.negative (-n))
    else if n ≤ UInt64.size * UInt64.size / 2 then some .oversized
    else none

/-- A number that is neither infinite nor undefined. -/
def readFinite (cs : List Char) : Option Float :=
  match Decimal.readLiteral (String.ofList cs) with
  | some (.number negative digits exponent) =>
    let x := (Decimal.Literal.number negative digits exponent).toFloat
    if x.isFinite then some x else none
  | _ => none

/-- A float: a number, or one of the words for infinity and for an undefined value. -/
def readFloat (s : String) : Option Float :=
  let unsigned := if s.toList.head? = some '+' then s.toList.drop 1 else s.toList
  if s.toList.head? = some '+' ∧ isSigned unsigned then none
  else if String.ofList unsigned ∈ [".inf", ".Inf", ".INF"] then some (1 / 0)
  else if s ∈ ["-.inf", "-.Inf", "-.INF"] then some (-(1 / 0))
  else if s ∈ [".nan", ".NaN", ".NAN"] then some (0 / 0)
  else readFinite unsigned

/-- Whether a text stands for nothing. -/
def isNull (s : String) : Bool := s ∈ ["null", "Null", "NULL", "~"]

/-- A truth value. -/
def readBool (s : String) : Option Bool :=
  if s ∈ ["true", "True", "TRUE"] then some true
  else if s ∈ ["false", "False", "FALSE"] then some false
  else none

/-- What a plain scalar is. -/
def Plain.ofText (s : String) : Plain :=
  if s.isEmpty || isNull s then .null
  else
    match readBool s with
    | some b => .bool b
    | none =>
      match (readInteger? s.toList).bind ofInteger? with
      | some i => i
      | none =>
        if hasLeadingZero s.toList then .text
        else
          match readFloat s with
          | some x => .float x
          | none => .text

end Docking.Yaml
