import Docking.Yaml.Cursor

/-!
# Blocks of lines

A block of lines is a scalar that is told from the rest by its indentation. Its lines are kept as
they are, or folded: then a single line break between two lines of text is a space.
-/

namespace Docking.Yaml

/-- What becomes of the line breaks at the end of a block. -/
inductive Chomping where
  /-- All are taken away. -/
  | strip
  /-- One is left. -/
  | clip
  /-- All are kept. -/
  | keep
  deriving DecidableEq

/-- What the header of a block says. -/
structure BlockHeader where
  chomping : Chomping
  /-- How much further than its surroundings the block is indented. -/
  indentation : Option Nat

/-- The chomping that a character stands for. -/
def chomping? (c : Char) : Option Chomping :=
  if c = '+' then some .keep else if c = '-' then some .strip else none

/-- The chomping that a text begins with. -/
def takeChomping : List Char → Option (Chomping × List Char)
  | [] => none
  | c :: rest => (chomping? c).map (·, rest)

/-- The indentation that a text begins with, which must not be zero. -/
def takeIndentation : List Char → Option (Option Nat × List Char)
  | [] => some (none, [])
  | c :: rest =>
    if c = '0' then none
    else if c.isDigit then some (some (c.toNat - '0'.toNat), rest)
    else some (none, c :: rest)

/-- The header of a block, whose two parts come in any order. -/
def takeHeader (cs : List Char) : Option (BlockHeader × List Char) :=
  match takeChomping cs with
  | some (chomping, rest) =>
    (takeIndentation rest).map fun (indentation, rest) => (⟨chomping, indentation⟩, rest)
  | none =>
    match takeIndentation cs with
    | none => none
    | some (none, rest) => some (⟨.clip, none⟩, rest)
    | some (indentation, rest) =>
      match takeChomping rest with
      | some (chomping, rest) => some (⟨chomping, indentation⟩, rest)
      | none => some (⟨.clip, indentation⟩, rest)

/-- Skips empty lines and the indentation of the next line, in up to `fuel` steps. While the
indentation of the block is not known, all spaces belong to it, and `widest` is the widest one so
far. Tabs may not stand in the indentation. -/
def skipEmptyFrom (indent : Option Nat) : (fuel : Nat) → (widest : Nat) → List Char → Cursor →
    Option (Nat × List Char × Cursor)
  | 0, _, _, _ => none
  | fuel + 1, widest, breaks, c =>
    let inside (c : Cursor) : Bool := indent.all fun i => decide (c.column < i)
    if c.next (· = ' ') && inside c then skipEmptyFrom indent fuel widest breaks (c.advance 1)
    else
      let widest := max widest c.column
      if c.next (· = '\t') && inside c then none
      else if c.next isBreak then
        let (lineBreak, c) := c.takeBreak
        skipEmptyFrom indent fuel widest (breaks ++ lineBreak) c
      else some (widest, breaks, c)

/-- The line breaks of empty lines, and the indentation of the block. -/
def skipEmpty (indent : Option Nat) (least : Nat) (c : Cursor) :
    Option (Nat × List Char × Cursor) :=
  (skipEmptyFrom indent (c.rest.length + 1) 0 [] c).map fun (widest, breaks, c) =>
    (indent.getD (max widest least), breaks, c)

/-- What a block has read so far. -/
structure BlockText where
  text : List Char
  /-- The line break behind the last line. -/
  last : List Char
  /-- The line breaks of the empty lines behind that. -/
  empty : List Char
  /-- Whether the last line began with a blank. -/
  blank : Bool

/-- The text up to the beginning of a line, which begins with a blank if `blank`. -/
def BlockText.joined (b : BlockText) (literal blank : Bool) : List Char :=
  if !literal && b.last.head? == some '\n' && !b.blank && !blank then
    b.text ++ (if b.empty.isEmpty then [' '] else b.empty)
  else b.text ++ b.last ++ b.empty

/-- Reads up to `fuel` lines of a block. -/
def blockFrom (literal : Bool) (indent : Nat) : (fuel : Nat) → BlockText → Cursor →
    Option (BlockText × Cursor)
  | 0, _, _ => none
  | fuel + 1, b, c =>
    if c.column = indent ∧ !c.atEnd then
      let blank := c.next isBlank
      let (line, c) := c.takeWhile fun x => !isBreak x
      let (last, c) := if c.next isBreak then c.takeBreak else ([], c)
      match skipEmpty (some indent) 0 c with
      | none => none
      | some (_, empty, c) =>
        blockFrom literal indent fuel ⟨b.joined literal blank ++ line, last, empty, blank⟩ c
    else some (b, c)

/-- A block, from its mark on, whose surroundings are indented by `parent`. -/
def takeBlock (literal : Bool) (parent : Int) (c : Cursor) : Option (List Char × Cursor) := do
  let c := c.advance 1
  let (header, rest) ← takeHeader c.rest
  let c ← (c.advanceTo rest).finishLine
  let indent := header.indentation.map fun n => n + (max parent 0).toNat
  let (indent, empty, c) ← skipEmpty indent (max (parent + 1) 1).toNat c
  let (b, c) ← blockFrom literal indent (c.rest.length + 1) ⟨[], [], empty, false⟩ c
  match header.chomping with
  | .strip => some (b.text, c)
  | .clip => some (b.text ++ b.last, c)
  | .keep => some (b.text ++ b.last ++ b.empty, c)

end Docking.Yaml
