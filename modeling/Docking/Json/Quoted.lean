import Docking.Text.Hex

/-!
# Quoted strings

A string in JSON stands between quotes. The quote, the backslash and the control characters are
written as escapes; every other character stands for itself. An escape by number names a unit of
sixteen bits, and a character beyond those is two such units.

Reading keeps the two steps apart: `takePieces` finds where a string ends, and `joinPieces` puts its
units together. A string whose units do not pair up can be passed over but has no value.

## Main definitions

* `escape`, `quoted`: writing.
* `takePieces`, `joinPieces`: reading.
-/

namespace Docking.Json

open Text

/-! ## Writing -/

/-- How a character is written inside a string. -/
def escapeChar (c : Char) : List Char :=
  if c = '"' then ['\\', '"']
  else if c = '\\' then ['\\', '\\']
  else if c = '\n' then ['\\', 'n']
  else if c = '\r' then ['\\', 'r']
  else if c = '\t' then ['\\', 't']
  else if c = '\x08' then ['\\', 'b']
  else if c = '\x0c' then ['\\', 'f']
  else if c.toNat < 0x20 then
    ['\\', 'u', '0', '0', hexDigit (c.toNat / 16), hexDigit (c.toNat % 16)]
  else [c]

/-- How the characters of a string are written. -/
def escape (cs : List Char) : List Char := cs.flatMap escapeChar

/-- A string between quotes. -/
def quoted (s : String) : String := String.ofList ('"' :: (escape s.toList ++ ['"']))

/-! ## Reading -/

/-- A part of a written string. -/
inductive Piece where
  /-- A character. -/
  | char (c : Char)
  /-- A unit of sixteen bits that an escape names. -/
  | unit (n : Nat)
  deriving DecidableEq, Repr

/-- What a backslash and one letter stand for. -/
def letterEscape? (c : Char) : Option Char :=
  if c = '"' then some '"'
  else if c = '\\' then some '\\'
  else if c = '/' then some '/'
  else if c = 'b' then some '\x08'
  else if c = 'f' then some '\x0c'
  else if c = 'n' then some '\n'
  else if c = 'r' then some '\r'
  else if c = 't' then some '\t'
  else none

/-- The unit that four digits name. -/
def unitOf? (a b c d : Char) : Option Nat :=
  match hexValue? a, hexValue? b, hexValue? c, hexValue? d with
  | some a, some b, some c, some d => some (((a * 16 + b) * 16 + c) * 16 + d)
  | _, _, _, _ => none

/-- The parts of a string up to its closing quote, and what follows the quote. Control characters
must be escaped. -/
def takePieces : List Char → Option (List Piece × List Char)
  | [] => none
  | '"' :: rest => some ([], rest)
  | '\\' :: 'u' :: a :: b :: c :: d :: rest =>
    match unitOf? a b c d, takePieces rest with
    | some n, some (pieces, rest) => some (.unit n :: pieces, rest)
    | _, _ => none
  | '\\' :: e :: rest =>
    match letterEscape? e, takePieces rest with
    | some c, some (pieces, rest) => some (.char c :: pieces, rest)
    | _, _ => none
  | c :: rest =>
    if c.toNat < 0x20 then none
    else
      match takePieces rest with
      | some (pieces, rest) => some (.char c :: pieces, rest)
      | none => none

/-- Whether a unit begins a pair. -/
def leads (n : Nat) : Bool := 0xD800 ≤ n && n < 0xDC00

/-- Whether a unit ends a pair. -/
def trails (n : Nat) : Bool := 0xDC00 ≤ n && n < 0xE000

/-- The character of a pair of units. -/
def pairChar (high low : Nat) : Char :=
  Char.ofNat (0x10000 + (high - 0xD800) * 0x400 + (low - 0xDC00))

/-- The characters that the parts of a string make up, if all halves of pairs meet. -/
def joinPieces : List Piece → Option (List Char)
  | [] => some []
  | .char c :: rest => (joinPieces rest).map (c :: ·)
  | .unit high :: .unit low :: rest =>
    if leads high then
      if trails low then (joinPieces rest).map (pairChar high low :: ·) else none
    else if trails high then none
    else (joinPieces (.unit low :: rest)).map (Char.ofNat high :: ·)
  | .unit n :: rest =>
    if leads n || trails n then none else (joinPieces rest).map (Char.ofNat n :: ·)

/-- What follows a string is shorter than what follows its opening quote. -/
theorem length_takePieces {cs : List Char} {pieces : List Piece} {rest : List Char}
    (h : takePieces cs = some (pieces, rest)) : rest.length < cs.length := by
  fun_induction takePieces cs generalizing pieces with
  | case1 => simp at h
  | case2 =>
    obtain ⟨-, rfl⟩ : [] = pieces ∧ _ = rest := by simpa using h
    simp
  | case3 a b c d r n inner after hr _ ih =>
    obtain ⟨-, rfl⟩ : _ ∧ after = rest := by simpa using h
    have := ih hr
    simp only [List.length_cons]
    omega
  | case4 => simp at h
  | case5 e r _ c inner after hr _ ih =>
    obtain ⟨-, rfl⟩ : _ ∧ after = rest := by simpa using h
    have := ih hr
    simp only [List.length_cons]
    omega
  | case6 => simp at h
  | case7 => simp at h
  | case8 c r _ _ _ _ inner after hr ih =>
    obtain ⟨-, rfl⟩ : _ ∧ after = rest := by simpa using h
    have := ih hr
    simp only [List.length_cons]
    omega
  | case9 => simp at h

end Docking.Json
