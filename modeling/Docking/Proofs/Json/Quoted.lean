import Docking.Json.Token
import Mathlib.Tactic.SplitIfs

/-!
# Quoted strings are read back

Whatever characters a string is made of, what is written between its quotes is read as the same
characters, and reading stops at the closing quote. A character is written by a letter behind a
backslash, by its number, or as itself, and in each case reading finds one part that stands for it.
Only control characters are written by their number, so that no part is half of a pair.

## Main definitions

* `Piece.StandsFor`: a part of a written string makes up a character by itself.

## Main results

* `takePieces_escapeChar`: one character.
* `takePieces_escape`: all characters of a string, up to the closing quote.
* `takeToken_quoted`: a quoted string is one token, whose value is the string.
-/

namespace Docking.Json

open Text

/-- A part of a written string makes up a character, whatever parts follow. -/
def Piece.StandsFor (piece : Piece) (c : Char) : Prop :=
  ∀ more, joinPieces (piece :: more) = (joinPieces more).map (c :: ·)

section Quoted

variable {c e : Char}

theorem standsFor_char (c : Char) : (Piece.char c).StandsFor c := fun _ => rfl

/-- A unit below all halves of pairs is a character by itself. -/
theorem standsFor_unit {n : Nat} (h : n < 0xD800) : (Piece.unit n).StandsFor (Char.ofNat n) := by
  have hleads : leads n = false := by
    simp only [leads, Bool.and_eq_false_iff, decide_eq_false_iff_not]
    omega
  have htrails : trails n = false := by
    simp only [trails, Bool.and_eq_false_iff, decide_eq_false_iff_not]
    omega
  intro more
  cases more with
  | nil => simp [joinPieces, hleads, htrails]
  | cons piece more =>
      cases piece with
      | char c => simp [joinPieces, hleads, htrails]
      | unit m => simp [joinPieces, hleads, htrails]

/-! ## Ways to write a character -/

theorem takePieces_letter (h : letterEscape? e = some c) (rest : List Char) :
    takePieces ('\\' :: e :: rest) = (takePieces rest).map fun x => (.char c :: x.1, x.2) := by
  have hu : e ≠ 'u' := by
    rintro rfl
    have hnone : letterEscape? 'u' = none := by decide
    rw [hnone] at h
    cases h
  rw [takePieces]
  · rw [h]
    cases takePieces rest <;> rfl
  · rintro a b c d r rfl
    exact absurd rfl hu

theorem takePieces_number {a b c d : Char} {n : Nat} (h : unitOf? a b c d = some n)
    (rest : List Char) :
    takePieces ('\\' :: 'u' :: a :: b :: c :: d :: rest) =
      (takePieces rest).map fun x => (.unit n :: x.1, x.2) := by
  rw [takePieces, h]
  cases takePieces rest <;> rfl

theorem takePieces_plain (hquote : c ≠ '"') (hslash : c ≠ '\\') (hcontrol : ¬ c.toNat < 0x20)
    (rest : List Char) :
    takePieces (c :: rest) = (takePieces rest).map fun x => (.char c :: x.1, x.2) := by
  rw [takePieces]
  · rw [if_neg hcontrol]
    cases takePieces rest <;> rfl
  · exact hquote
  · exact fun _ _ _ _ _ hc _ => hslash hc
  · exact fun _ _ hc _ => hslash hc

/-- The number that is written for a control character. -/
private theorem unitOf?_control (h : c.toNat < 0x20) :
    unitOf? '0' '0' (hexDigit (c.toNat / 16)) (hexDigit (c.toNat % 16)) = some c.toNat := by
  have hzero : hexValue? '0' = some 0 := by decide
  have hhigh := hexValue?_hexDigit (n := c.toNat / 16) (by omega)
  have hlow := hexValue?_hexDigit (n := c.toNat % 16) (by omega)
  simp only [unitOf?, hzero, hhigh, hlow, Option.some.injEq]
  omega

/-- What is written for a character is read as one part that stands for it. -/
theorem takePieces_escapeChar (c : Char) :
    ∃ piece : Piece, piece.StandsFor c ∧ ∀ rest, takePieces (escapeChar c ++ rest) =
      (takePieces rest).map fun x => (piece :: x.1, x.2) := by
  have hletter : ∀ e, letterEscape? e = some c → ∃ piece : Piece, piece.StandsFor c ∧
      ∀ rest, takePieces (['\\', e] ++ rest) =
        (takePieces rest).map fun x => (piece :: x.1, x.2) :=
    fun e h => ⟨.char c, standsFor_char c, takePieces_letter h⟩
  unfold escapeChar
  split_ifs with hquote hslash hn hr ht hb hf hcontrol
  · exact hletter _ (by subst c; rfl)
  · exact hletter _ (by subst c; rfl)
  · exact hletter _ (by subst c; rfl)
  · exact hletter _ (by subst c; rfl)
  · exact hletter _ (by subst c; rfl)
  · exact hletter _ (by subst c; rfl)
  · exact hletter _ (by subst c; rfl)
  · refine ⟨.unit c.toNat, ?_, takePieces_number (unitOf?_control hcontrol)⟩
    have hstands := standsFor_unit (n := c.toNat) (by omega)
    rwa [Char.ofNat_toNat] at hstands
  · exact ⟨.char c, standsFor_char c, takePieces_plain hquote hslash hcontrol⟩

/-! ## Strings -/

/-- What is written for the characters of a string is read up to the closing quote, and its parts
make up the characters again. -/
theorem takePieces_escape (cs rest : List Char) :
    ∃ pieces, takePieces (escape cs ++ '"' :: rest) = some (pieces, rest) ∧
      joinPieces pieces = some cs := by
  induction cs with
  | nil => exact ⟨[], rfl, rfl⟩
  | cons c cs ih =>
      obtain ⟨pieces, hpieces, hjoin⟩ := ih
      obtain ⟨piece, hstands, hpiece⟩ := takePieces_escapeChar c
      refine ⟨piece :: pieces, ?_, ?_⟩
      · rw [escape, List.flatMap_cons, List.append_assoc, hpiece]
        exact congrArg (Option.map _) hpieces
      · rw [hstands, hjoin]
        rfl

/-- A quoted string is one token, whose value is the string. -/
theorem takeToken_quoted (s : String) (rest : List Char) :
    takeToken '"' (escape s.toList ++ '"' :: rest) = some (.text (some s), rest) := by
  obtain ⟨pieces, hpieces, hjoin⟩ := takePieces_escape s.toList rest
  have hmark : mark? '"' = none := by decide
  rw [takeToken, hmark]
  simp only [if_true, hpieces, Option.map_some, hjoin, String.ofList_toList]

-- A quote and a newline behind backslashes, a control character by its number, and a letter as it
-- is; what stands behind the closing quote is left.
example : takeToken '"' "\\\"\\n\\u0001é\",".toList = some (.text (some "\"\n\x01é"), [',']) := by
  decide +kernel

end Quoted

end Docking.Json
