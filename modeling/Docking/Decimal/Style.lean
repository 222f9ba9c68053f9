import Docking.Decimal.Shortest

/-!
# Written floats

A 32-bit float is written with the digits of its shortest decimal. Three styles share these digits
and differ in the record `Style`: `plain` for layouts and answers, `debug` for the steps named in
error messages, and `document` for saved settings and printed snapshots.
-/

namespace Docking.Decimal

/-- What a 32-bit float stands for. -/
inductive Parts where
  | undefined
  | infinite (negative : Bool)
  | zero (negative : Bool)
  | finite (negative : Bool) (magnitude : Binary)
  deriving DecidableEq, Repr

/-- The leading bit of a significand, which is not stored. -/
def hiddenBit : Nat := 1 <<< 23

/-- Takes a float apart: a sign bit, eight exponent bits, and 23 bits of significand. -/
def parts (x : Float32) : Parts :=
  let bits : Nat := x.toBits.toNat
  let negative := bits >>> 31 == 1
  let exponent : Nat := (bits >>> 23) % 256
  let fraction : Nat := bits % hiddenBit
  if exponent = 255 then if fraction = 0 then .infinite negative else .undefined
  else if exponent = 0 then
    if fraction = 0 then .zero negative else .finite negative ⟨fraction, -149, false⟩
  else
    .finite negative
      ⟨hiddenBit + fraction, (exponent : Int) - 150, fraction == 0 && exponent != 1⟩

/-- How the digits of a float are set out. -/
structure Style where
  /-- Which of two equally near decimals is written. -/
  tie : Tie
  /-- Where the decimal point may stand for the number to be written without an exponent, counted
  from the first digit. Without bounds there is never an exponent. -/
  positional : Option (Int × Int)
  /-- Whole numbers that are written without an exponent end in `.0`. -/
  wholePoint : Bool
  /-- A positive exponent carries a sign. -/
  plusSign : Bool

namespace Style

/-- The style of layouts: no exponent and nothing after a whole number. -/
def plain : Style := ⟨.up, none, false, false⟩

/-- The style of script steps in messages: an exponent below `10 ^ (-4)` and from `10 ^ 16` on. -/
def debug : Style := ⟨.up, some (-3, 16), true, false⟩

/-- The style of saved documents: an exponent below `10 ^ (-6)` and from `10 ^ 13` on. -/
def document : Style := ⟨.even, some (-5, 13), true, false⟩

/-- The style of saved documents, with a sign at positive exponents. -/
def signedDocument : Style := { document with plusSign := true }

/-- A decimal without an exponent: leading zeros below one, trailing zeros above the digits. -/
def positionalText (s : Style) (digits : String) (point : Int) : String :=
  let count : Int := digits.length
  if point ≤ 0 then "0." ++ String.ofList (List.replicate (-point).toNat '0') ++ digits
  else if point < count then
    (digits.take point.toNat).toString ++ "." ++ (digits.drop point.toNat).toString
  else
    digits ++ String.ofList (List.replicate (point - count).toNat '0') ++
      if s.wholePoint then ".0" else ""

/-- A decimal with an exponent: one digit before the point. -/
def scientificText (s : Style) (digits : String) (point : Int) : String :=
  let mantissa :=
    if digits.length ≤ 1 then digits
    else (digits.take 1).toString ++ "." ++ (digits.drop 1).toString
  let exponent := point - 1
  mantissa ++ "e" ++ (if s.plusSign && decide (exponent ≥ 0) then "+" else "") ++ toString exponent

/-- A positive number. -/
def magnitudeText (s : Style) (b : Binary) : String :=
  let d := b.shortest s.tie
  let digits := toString d.digits
  let point : Int := d.exponent + digits.length
  match s.positional with
  | none => s.positionalText digits point
  | some (least, greatest) =>
    if least ≤ point ∧ point ≤ greatest then s.positionalText digits point
    else s.scientificText digits point

/-- A written float. -/
def text (s : Style) (x : Float32) : String :=
  let sign (negative : Bool) := if negative then "-" else ""
  match parts x with
  | .undefined => "NaN"
  | .infinite negative => sign negative ++ "inf"
  | .zero negative => sign negative ++ if s.wholePoint then "0.0" else "0"
  | .finite negative b => sign negative ++ s.magnitudeText b

end Style

end Docking.Decimal
