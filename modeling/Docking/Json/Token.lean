import Docking.Decimal.Reading
import Docking.Json.Quoted

/-!
# The words of JSON

A JSON text is a row of tokens with blanks between them. `readTokens` finds the tokens; it goes on
where the last token ended, and every token is at least one character long.
-/

namespace Docking.Json

/-- A number as it is written: its value, and whether it has neither a point nor an exponent. -/
structure Number where
  negative : Bool
  digits : Nat
  exponent : Int
  whole : Bool
  deriving DecidableEq, Repr

namespace Number

/-- The exact value. -/
def literal (n : Number) : Decimal.Literal := .number n.negative n.digits n.exponent

/-- The number as a natural number below `2 ^ 64`, unless it is written with a sign, a point or an
exponent. -/
def natural? (n : Number) : Option Nat :=
  if n.whole && !n.negative && decide (n.digits < UInt64.size) then some n.digits else none

/-- The number as a negative integer from `-2 ^ 63` on, unless it is written with a point or an
exponent. -/
def negative? (n : Number) : Option Int :=
  if n.whole && n.negative && decide (n.digits ≠ 0) && decide (n.digits ≤ UInt64.size / 2) then
    some (-n.digits)
  else none

/-- The number as a 64-bit float, unless it is too large for one. -/
def float? (n : Number) : Option Float :=
  let x := n.literal.toFloat
  if x.isFinite then some x else none

/-- The number as a 32-bit float. Small integers are rounded once, others first to 64 bits; a number
that is too large for 64 bits is refused. -/
def float32? (n : Number) : Option Float32 :=
  match n.natural?, n.negative? with
  | some natural, _ => some (Decimal.ofNatural natural)
  | none, some negative => some (Decimal.ofInteger negative)
  | none, none => n.float?.map Float.toFloat32

end Number

/-- A word of a JSON text. -/
inductive Token where
  | openList
  | closeList
  | openRecord
  | closeRecord
  | comma
  | colon
  /-- A string. It has no value where a half of a pair of units is alone. -/
  | text (value : Option String)
  | number (value : Number)
  | bool (value : Bool)
  | null
  deriving DecidableEq, Repr

/-! ## Numbers -/

/-- The fraction that a text begins with, and the rest. A point must be followed by a digit. -/
def takeFraction : List Char → Option (List Char × List Char)
  | '.' :: rest =>
    let (digits, rest) := Decimal.takeDigits rest
    if digits = [] then none else some (digits, rest)
  | rest => some ([], rest)

/-- The exponent that a text begins with, and the rest. -/
def takeExponent : List Char → Option (Option Int × List Char)
  | [] => some (none, [])
  | c :: rest =>
    if c = 'e' ∨ c = 'E' then
      let (negative, rest) := Decimal.takeSign rest
      let (digits, rest) := Decimal.takeDigits rest
      let size := Decimal.digitsValue digits
      if digits = [] then none else some (some (if negative then -(size : Int) else size), rest)
    else some (none, c :: rest)

/-- The unsigned number that a text begins with, and the rest. A number does not begin with a zero
and a further digit. -/
def takeNumber (negative : Bool) (cs : List Char) : Option (Number × List Char) :=
  let (whole, rest) := Decimal.takeDigits cs
  if whole = [] ∨ (whole.head? = some '0' ∧ whole.length > 1) then none
  else
    match takeFraction rest with
    | none => none
    | some (fraction, rest) =>
      match takeExponent rest with
      | none => none
      | some (exponent, rest) =>
        some (⟨negative, Decimal.digitsValue (whole ++ fraction),
          exponent.getD 0 - fraction.length, fraction.isEmpty && exponent.isNone⟩, rest)

/-! ## Tokens -/

/-- The characters that may stand between tokens. -/
def isBlank (c : Char) : Bool := c = ' ' || c = '\n' || c = '\t' || c = '\r'

/-- The token that is one character. -/
def mark? (c : Char) : Option Token :=
  if c = '[' then some .openList
  else if c = ']' then some .closeList
  else if c = '\x7b' then some .openRecord
  else if c = '\x7d' then some .closeRecord
  else if c = ',' then some .comma
  else if c = ':' then some .colon
  else none

/-- The token that begins with the character `c`, and what follows it. -/
def takeToken (c : Char) (rest : List Char) : Option (Token × List Char) :=
  match mark? c with
  | some token => some (token, rest)
  | none =>
    if c = '"' then
      (takePieces rest).map fun (pieces, rest) =>
        (.text ((joinPieces pieces).map String.ofList), rest)
    else if c = '-' then (takeNumber true rest).map fun (n, rest) => (.number n, rest)
    else if c.isDigit then (takeNumber false (c :: rest)).map fun (n, rest) => (.number n, rest)
    else if c = 't' ∧ rest.take 3 = ['r', 'u', 'e'] then some (.bool true, rest.drop 3)
    else if c = 'f' ∧ rest.take 4 = ['a', 'l', 's', 'e'] then some (.bool false, rest.drop 4)
    else if c = 'n' ∧ rest.take 3 = ['u', 'l', 'l'] then some (.null, rest.drop 3)
    else none

theorem length_takeDigits (cs : List Char) :
    (Decimal.takeDigits cs).1.length + (Decimal.takeDigits cs).2.length = cs.length := by
  rw [Decimal.takeDigits, ← List.length_append, List.takeWhile_append_dropWhile]

theorem length_takeFraction {cs digits rest : List Char}
    (h : takeFraction cs = some (digits, rest)) : rest.length ≤ cs.length := by
  unfold takeFraction at h
  split at h
  · next r =>
    have := length_takeDigits r
    simp only at h
    split at h
    · cases h
    · cases h
      simp only [List.length_cons]
      omega
  · cases h
    exact Nat.le_refl _

theorem length_takeSign (cs : List Char) : (Decimal.takeSign cs).2.length ≤ cs.length := by
  unfold Decimal.takeSign
  split <;> simp

theorem length_takeExponent {cs rest : List Char} {exponent : Option Int}
    (h : takeExponent cs = some (exponent, rest)) : rest.length ≤ cs.length := by
  unfold takeExponent at h
  split at h
  · cases h
    exact Nat.le_refl _
  · next c r =>
    have hs := length_takeSign r
    have hd := length_takeDigits (Decimal.takeSign r).2
    split at h
    · simp only at h
      split at h
      · cases h
      · cases h
        simp only [List.length_cons]
        omega
    · cases h
      exact Nat.le_refl _

theorem length_takeNumber {negative : Bool} {cs rest : List Char} {n : Number}
    (h : takeNumber negative cs = some (n, rest)) : rest.length < cs.length := by
  unfold takeNumber at h
  have hd := length_takeDigits cs
  simp only at h
  split at h
  · cases h
  · next hw =>
    have hpos : 0 < (Decimal.takeDigits cs).1.length :=
      List.length_pos_iff.2 fun h => hw (.inl h)
    split at h
    · cases h
    · next hf =>
      have := length_takeFraction hf
      split at h
      · cases h
      · next he =>
        have := length_takeExponent he
        cases h
        omega

/-- What follows a token is no longer than what follows its first character. -/
theorem length_takeToken {c : Char} {rest after : List Char} {token : Token}
    (h : takeToken c rest = some (token, after)) : after.length ≤ rest.length := by
  unfold takeToken at h
  split at h
  · cases h
    exact Nat.le_refl _
  · split at h
    · obtain ⟨⟨pieces, r⟩, hp, hr⟩ := Option.map_eq_some_iff.1 h
      cases hr
      exact Nat.le_of_lt (length_takePieces hp)
    · split at h
      · obtain ⟨⟨n, r⟩, hn, hr⟩ := Option.map_eq_some_iff.1 h
        cases hr
        exact Nat.le_of_lt (length_takeNumber hn)
      · split at h
        · obtain ⟨⟨n, r⟩, hn, hr⟩ := Option.map_eq_some_iff.1 h
          cases hr
          have := length_takeNumber hn
          simp only [List.length_cons] at this
          omega
        · split at h
          · cases h
            simp
          · split at h
            · cases h
              simp
            · split at h
              · cases h
                simp
              · cases h

/-- The tokens of a text. -/
def readTokens : List Char → Option (List Token)
  | [] => some []
  | c :: rest =>
    if isBlank c then readTokens rest
    else
      match h : takeToken c rest with
      | none => none
      | some (token, after) =>
        have := length_takeToken h
        (readTokens after).map (token :: ·)
termination_by cs => cs.length

end Docking.Json
