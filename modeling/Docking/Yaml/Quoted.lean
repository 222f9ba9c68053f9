import Docking.Text.Hex
import Docking.Yaml.Cursor

/-!
# Scalars on the line

Scalars between quotes and plain scalars. Both may go on over several lines, which are joined by
spaces.
-/

namespace Docking.Yaml

/-! ## Between quotes -/

/-- Where a run of characters between quotes ends. -/
inductive RunEnd where
  /-- At the closing quote. -/
  | quote
  /-- At a backslash before a line break. -/
  | escapedBreak
  /-- At a gap or at the end of the text. -/
  | gap
  deriving DecidableEq

/-- What a backslash and one letter stand for between double quotes. -/
def letterEscape? (c : Char) : Option Char :=
  [('0', '\x00'), ('a', '\x07'), ('b', '\x08'), ('t', '\t'), ('\t', '\t'), ('n', '\n'),
    ('v', '\x0b'), ('f', '\x0c'), ('r', '\r'), ('e', '\x1b'), (' ', ' '), ('"', '"'), ('/', '/'),
    ('\\', '\\'), ('N', '\u0085'), ('_', '\u00a0'), ('L', '\u2028'), ('P', '\u2029')].lookup c

/-- The number of digits that follow a backslash and a letter. -/
def escapeLength? (c : Char) : Option Nat := [('x', 2), ('u', 4), ('U', 8)].lookup c

/-- The number that digits to the base sixteen stand for. -/
def hexNumber? (digits : List Char) : Option Nat :=
  digits.foldlM (fun value c => (Text.hexValue? c).map fun d => value * 16 + d) 0

/-- The character of an escape by number. -/
def numberEscape? (count : Nat) (cs : List Char) : Option Char :=
  if cs.length < count then none
  else
    (hexNumber? (cs.take count)).bind fun n =>
      if n.isValidChar then some (Char.ofNat n) else none

/-- Characters between single quotes up to the next gap, where two quotes stand for one. -/
def singleRun : List Char → List Char × RunEnd × List Char
  | [] => ([], .gap, [])
  | '\'' :: '\'' :: rest =>
    let (run, ending, rest) := singleRun rest
    ('\'' :: run, ending, rest)
  | c :: rest =>
    if c = '\'' then ([], .quote, rest)
    else if isBlank c || isBreak c then ([], .gap, c :: rest)
    else
      let (run, ending, rest) := singleRun rest
      (c :: run, ending, rest)

/-- Characters between double quotes up to the next gap. -/
def doubleRun (cs : List Char) : Option (List Char × RunEnd × List Char) :=
  match cs with
  | [] => some ([], .gap, [])
  | c :: rest =>
    if c = '"' then some ([], .quote, rest)
    else if isBlank c || isBreak c then some ([], .gap, c :: rest)
    else if c = '\\' then
      match rest with
      | [] => none
      | e :: rest =>
        if isBreak e then some ([], .escapedBreak, e :: rest)
        else
          match letterEscape? e, escapeLength? e with
          | some x, _ => (doubleRun rest).map fun (run, after) => (x :: run, after)
          | none, none => none
          | none, some count =>
            match numberEscape? count rest with
            | none => none
            | some x => (doubleRun (rest.drop count)).map fun (run, after) => (x :: run, after)
    else (doubleRun rest).map fun (run, after) => (c :: run, after)
termination_by cs.length
decreasing_by all_goals (simp only [List.length_cons, List.length_drop]; omega)

/-- The rest of a scalar between quotes, of up to `fuel` runs. -/
def quotedFrom (single : Bool) : (fuel : Nat) → List Char → Cursor → Option (List Char × Cursor)
  | 0, _, _ => none
  | fuel + 1, text, c =>
    if c.atDocumentMark || c.atEnd then none
    else
      match if single then some (singleRun c.rest) else doubleRun c.rest with
      | none => none
      | some (run, ending, rest) =>
        let c := c.advanceTo rest
        let text := text ++ run
        match ending with
        | .quote => some (text, c)
        | .escapedBreak =>
          match c.takeBreak.2.takeGap 0 with
          | none => none
          | some (gap, c) => quotedFrom single fuel (text ++ gap.breaks.flatten) c
        | .gap =>
          match c.takeGap 0 with
          | none => none
          | some (gap, c) => quotedFrom single fuel (text ++ gap.text) c

/-- A scalar between quotes, from its opening quote on. -/
def takeQuoted (single : Bool) (c : Cursor) : Option (List Char × Cursor) :=
  quotedFrom single (c.rest.length + 1) [] (c.advance 1)

/-! ## Plain -/

/-- The brackets and the comma, which end a plain scalar within brackets. -/
def isFlowMark (c : Char) : Bool := c = ',' || c = '[' || c = ']' || c = '\x7b' || c = '\x7d'

/-- The characters of a plain scalar up to the next gap, and what follows. A colon in front of a
bracket is not allowed within brackets. -/
def plainRun (flow : Bool) : List Char → Option (List Char × List Char)
  | [] => some ([], [])
  | c :: rest =>
    if isBlank c || isBreak c then some ([], c :: rest)
    else if flow && c = ':' && rest.head?.any fun x => isFlowMark x || x = '?' then none
    else if (c = ':' && endsWord rest) || (flow && isFlowMark c) then some ([], c :: rest)
    else (plainRun flow rest).map fun (run, after) => (c :: run, after)

/-- The rest of a plain scalar, of up to `fuel` runs, behind a gap. Lines must be indented by
`indent`, except within brackets. The last result tells whether the scalar ends behind a line break.
-/
def plainFrom (flow : Bool) (indent : Nat) : (fuel : Nat) → List Char → Cursor.Gap → Cursor →
    Option (List Char × Cursor × Bool)
  | 0, _, _, _ => none
  | fuel + 1, text, gap, c =>
    let fresh := !gap.breaks.isEmpty
    if c.atDocumentMark || c.next (· = '#') then some (text, c, fresh)
    else
      match plainRun flow c.rest with
      | none => none
      | some (run, rest) =>
        if run.isEmpty then some (text, c, fresh)
        else
          let c := c.advanceTo rest
          let text := text ++ gap.text ++ run
          if c.next fun x => isBlank x || isBreak x then
            match c.takeGap indent with
            | none => none
            | some (gap, c) =>
              if !flow && decide (c.column < indent) then some (text, c, !gap.breaks.isEmpty)
              else plainFrom flow indent fuel text gap c
          else some (text, c, false)

/-- A plain scalar. -/
def takePlain (flow : Bool) (indent : Nat) (c : Cursor) : Option (List Char × Cursor × Bool) :=
  plainFrom flow indent (c.rest.length + 1) [] ⟨[], []⟩ c

end Docking.Yaml
