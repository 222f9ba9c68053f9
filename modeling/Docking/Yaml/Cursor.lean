import Docking.Yaml.Character

/-!
# Places in a text

YAML depends on where things stand: how far a line is indented, and whether two places are on one
line. A cursor is the rest of a text together with its place.
-/

namespace Docking.Yaml

/-- A place in a text, and the text from there on. -/
structure Cursor where
  rest : List Char
  /-- The number of characters before the place. -/
  index : Nat
  /-- The number of lines before the place. -/
  line : Nat
  /-- The number of characters before the place on its line. -/
  column : Nat

namespace Cursor

/-- The beginning of a text. -/
def start (cs : List Char) : Cursor := ⟨cs, 0, 0, 0⟩

/-- Whether the text is at its end. -/
def atEnd (c : Cursor) : Bool := c.rest.isEmpty

/-- Whether the next character satisfies a test. -/
def next (c : Cursor) (test : Char → Bool) : Bool := c.rest.head?.any test

/-- Whether the text is at its end or goes on with a line break. -/
def atLineEnd (c : Cursor) : Bool := c.atEnd || c.next isBreak

/-- Goes on by some characters of the same line. -/
def advance (c : Cursor) (count : Nat) : Cursor :=
  { c with rest := c.rest.drop count, index := c.index + count, column := c.column + count }

/-- Goes on to `rest`, which is later on the same line. -/
def advanceTo (c : Cursor) (rest : List Char) : Cursor :=
  c.advance (c.rest.length - rest.length)

/-- The characters of the same line that satisfy a test, and the place behind them. -/
def takeWhile (c : Cursor) (test : Char → Bool) : List Char × Cursor :=
  let taken := c.rest.takeWhile test
  (taken, c.advance taken.length)

/-- Goes on to the next character that does not satisfy a test. -/
def skipWhile (c : Cursor) (test : Char → Bool) : Cursor := (c.takeWhile test).2

/-- A line break, and the beginning of the next line. All line breaks read as one character; only
the separators of lines and paragraphs are kept apart. -/
def takeBreak (c : Cursor) : List Char × Cursor :=
  match c.rest with
  | [] => ([], c)
  | '\r' :: '\n' :: rest => (['\n'], ⟨rest, c.index + 2, c.line + 1, 0⟩)
  | x :: rest =>
    (if x = '\u2028' ∨ x = '\u2029' then [x] else ['\n'], ⟨rest, c.index + 1, c.line + 1, 0⟩)

/-- Goes on to the beginning of the next line, if there is a line break. -/
def skipBreak (c : Cursor) : Cursor := if c.next isBreak then c.takeBreak.2 else c

/-- Whether a mark of three characters stands alone at the beginning of a line. -/
def atMark (c : Cursor) (mark : List Char) : Bool :=
  c.column == 0 && c.rest.take 3 == mark && endsWord (c.rest.drop 3)

/-- Whether a document begins or ends here. -/
def atDocumentMark (c : Cursor) : Bool := c.atMark ['-', '-', '-'] || c.atMark ['.', '.', '.']

/-- Skips blanks, a comment and the line break, all of which may be absent. Nothing else may stand
on the line. -/
def finishLine (c : Cursor) : Option Cursor :=
  let c := c.skipWhile isBlank
  let c := if c.next (· = '#') then c.skipWhile fun x => !isBreak x else c
  if c.atLineEnd then some c.skipBreak else none

/-! ## Gaps -/

/-- Blanks and line breaks between the words of a text. -/
structure Gap where
  /-- The blanks before the first line break. -/
  blanks : List Char
  /-- The line breaks. -/
  breaks : List (List Char)

/-- What line breaks between words stand for: the first one is a space, unless others follow it or
it is one of those that are kept. -/
def foldBreaks : List (List Char) → List Char
  | [] => []
  | first :: others =>
    if first = ['\n'] then if others.isEmpty then [' '] else others.flatten
    else first ++ others.flatten

/-- What a gap stands for. -/
def Gap.text (g : Gap) : List Char := if g.breaks.isEmpty then g.blanks else foldBreaks g.breaks

/-- Reads a gap of up to `fuel` parts. `breaks` are the line breaks before it, the last one first,
and `indent` is the least column at which a line may have a tab. -/
def gapFrom (indent : Nat) : (fuel : Nat) → List Char → List (List Char) → Cursor →
    Option (Gap × Cursor)
  | 0, _, _, _ => none
  | fuel + 1, blanks, breaks, c =>
    match c.rest with
    | [] => some (⟨blanks, breaks.reverse⟩, c)
    | x :: _ =>
      if isBreak x then
        let (lineBreak, c) := c.takeBreak
        gapFrom indent fuel blanks (lineBreak :: breaks) c
      else if isBlank x then
        if breaks.isEmpty then gapFrom indent fuel (blanks ++ [x]) breaks (c.advance 1)
        else if x = '\t' ∧ c.column < indent then none
        else gapFrom indent fuel blanks breaks (c.advance 1)
      else some (⟨blanks, breaks.reverse⟩, c)

/-- Reads a gap. A line of the gap may have no tab before the column `indent`. -/
def takeGap (c : Cursor) (indent : Nat) : Option (Gap × Cursor) :=
  gapFrom indent (c.rest.length + 1) [] [] c

end Cursor

end Docking.Yaml
