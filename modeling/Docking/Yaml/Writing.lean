import Docking.Document
import Docking.Text.Hex
import Docking.Yaml.Character
import Docking.Yaml.Plain

/-!
# Documents as YAML

Records and lists are written as blocks. A list that is a member of a record is not indented further
than the record. A text is written plain where it would be read as the same text, and otherwise
between quotes; a text of several lines is written as a block of lines.

## Main definitions

* `ScalarForm`, `ScalarForm.ofText`: the ways to write a text, and the way that is used.
* `Document.yaml`: a document as YAML.
-/

namespace Docking

namespace Yaml

/-! ## Forms of a text -/

/-- The ways to write a text. -/
inductive ScalarForm where
  | plain
  | singleQuoted
  | doubleQuoted
  /-- A block of lines. -/
  | literal
  deriving DecidableEq, Repr

/-- Whether two neighbours of a text satisfy two tests, one after the other. -/
def anyPair (first second : Char → Bool) (cs : List Char) : Bool :=
  (cs.zip cs.tail).any fun (a, b) => first a && second b

/-- Whether a character is a space. -/
def isSpace (c : Char) : Bool := c = ' '

/-- Whether a text can be written only with escapes. -/
def needsEscapes (cs : List Char) : Bool :=
  cs.any (fun c => !isPrintable c) || anyPair isSpace isBreak cs

/-- The characters that a plain text may not begin with. -/
def leadingMarks : List Char :=
  ['#', ',', '[', ']', '\x7b', '\x7d', '&', '*', '!', '|', '>', '\'', '"', '%', '@', '\x60']

/-- Whether the beginning of a text means something else in YAML. -/
def startsSpecially (cs : List Char) : Bool :=
  cs.take 3 == ['-', '-', '-'] || cs.take 3 == ['.', '.', '.'] ||
    match cs with
    | [] => false
    | c :: rest =>
      leadingMarks.contains c || ((c = '?' || c = ':' || c = '-') && endsWord rest)

/-- Whether some place in a text means something else in YAML: a colon at the end of a word, or a
hash sign at its beginning. -/
def breaksOff : List Char → Bool
  | [] => false
  | c :: rest =>
    (c = ':' && endsWord rest) || (isBlank c && rest.head? == some '#') || breaksOff rest

/-- Whether a text may be written plain, as far as its characters are concerned. -/
def plainFits (cs : List Char) : Bool :=
  !(cs.any isBreak || needsEscapes cs || startsSpecially cs || breaksOff cs ||
    cs.head?.any isSpace || cs.getLast?.any isSpace)

/-- Whether a text may be written between single quotes. -/
def singleQuotesFit (cs : List Char) : Bool := !(needsEscapes cs || anyPair isBreak isSpace cs)

/-- Whether a text may be written as a block of lines. -/
def literalFits (cs : List Char) : Bool := !(needsEscapes cs || cs.getLast?.any isSpace)

/-- Whether a plain text would be read as a text. -/
def readsAsText (s : String) : Bool :=
  match Plain.ofText s with
  | .text => !hasLeadingZero s.toList
  | _ => false

/-- The way a text is written. -/
def ScalarForm.ofText (s : String) : ScalarForm :=
  let cs := s.toList
  if cs.contains '\n' then if literalFits cs then literal else doubleQuoted
  else if readsAsText s && plainFits cs then plain
  else if singleQuotesFit cs then singleQuoted
  else doubleQuoted

/-! ## Written texts -/

/-- Blanks at the beginning of a line. -/
def padding (indent : Nat) : List Char := List.replicate indent ' '

/-- A text whose lines are indented: behind a line break, the blanks come before the next character
of a line. -/
def indentLines (indent : Nat) : (fresh : Bool) → List Char → List Char
  | _, [] => []
  | fresh, c :: rest =>
    if isBreak c then c :: indentLines indent true rest
    else (if fresh then padding indent else []) ++ c :: indentLines indent false rest

/-- The last `count` digits of a number to the base sixteen. -/
def hexDigits : (count : Nat) → Nat → List Char
  | 0, _ => []
  | count + 1, n => hexDigits count (n / 16) ++ [Text.upperHexDigit (n % 16)]

/-- The letters of the escapes that have one. -/
def letterEscapes : List (Char × Char) :=
  [('\x00', '0'), ('\x07', 'a'), ('\x08', 'b'), ('\t', 't'), ('\n', 'n'), ('\x0b', 'v'),
    ('\x0c', 'f'), ('\r', 'r'), ('\x1b', 'e'), ('"', '"'), ('\\', '\\'), ('\u0085', 'N'),
    ('\u2028', 'L'), ('\u2029', 'P')]

/-- A character between double quotes. -/
def escapeChar (c : Char) : List Char :=
  match letterEscapes.lookup c with
  | some letter => ['\\', letter]
  | none =>
    if isPrintable c then [c]
    else if c.toNat ≤ 0xFF then '\\' :: 'x' :: hexDigits 2 c.toNat
    else if c.toNat ≤ 0xFFFF then '\\' :: 'u' :: hexDigits 4 c.toNat
    else '\\' :: 'U' :: hexDigits 8 c.toNat

/-- A text between single quotes, where a quote is written twice. -/
def singleQuotedText (indent : Nat) (cs : List Char) : List Char :=
  let doubled := cs.flatMap fun c => if c = '\'' then ['\'', '\''] else [c]
  let closing := if cs.getLast?.any isBreak then padding indent else []
  '\'' :: (indentLines indent false doubled ++ closing ++ ['\''])

/-- What follows the bar of a block of lines: how far it is indented, if it begins with a blank, and
what becomes of the line breaks at its end. -/
def literalHeader (cs : List Char) : List Char :=
  let indentation := if cs.head?.any fun c => isSpace c || isBreak c then ['2'] else []
  let chomping :=
    match cs.reverse with
    | [] => ['-']
    | [last] => if isBreak last then ['+'] else ['-']
    | last :: before :: _ => if isBreak last then if isBreak before then ['+'] else [] else ['-']
  '|' :: (indentation ++ chomping)

/-- A text as a block of lines, the last of which is ended. -/
def literalText (indent : Nat) (cs : List Char) : List Char :=
  literalHeader cs ++ '\n' :: indentLines indent true cs ++
    if cs.getLast?.any isBreak then [] else ['\n']

/-- A text up to the end of its last line, where lines that follow the first one are indented. -/
def textLines (indent : Nat) (s : String) : String :=
  let cs := s.toList
  match ScalarForm.ofText s with
  | .plain => s ++ "\n"
  | .singleQuoted => String.ofList (singleQuotedText indent cs) ++ "\n"
  | .doubleQuoted => String.ofList ('"' :: (cs.flatMap escapeChar ++ ['"'])) ++ "\n"
  | .literal => String.ofList (literalText indent cs)

/-- A float. -/
def floatText (x : Float32) : String :=
  match Decimal.parts x with
  | .undefined => ".nan"
  | .infinite negative => if negative then "-.inf" else ".inf"
  | .zero _ | .finite .. => Decimal.Style.document.text x

end Yaml

namespace Document

/-- The blanks at the beginning of a line. -/
def yamlMargin (indent : Nat) : String := String.ofList (Yaml.padding indent)

/-- Lines, the first of which has its blanks already. -/
def hang (indent : Nat) : List String → String
  | [] => ""
  | first :: rest => first ++ String.join (rest.map fun line => yamlMargin indent ++ line)

mutual

/-- What stands behind the name of a member of a record that is indented by `indent`, up to the end
of its last line. -/
def yamlMember (indent : Nat) : Document → String
  | null => " null\n"
  | bool b => " " ++ boolText b ++ "\n"
  | natural n => " " ++ toString n ++ "\n"
  | float x => " " ++ Yaml.floatText x ++ "\n"
  | text s => " " ++ Yaml.textLines (indent + 2) s
  | list items =>
    if items.isEmpty then " []\n"
    else "\n" ++ yamlMargin indent ++ hang indent (yamlItems indent items)
  | record members =>
    if members.isEmpty then " \x7b\x7d\n"
    else "\n" ++ yamlMargin (indent + 2) ++ hang (indent + 2) (yamlMembers (indent + 2) members)

/-- What stands behind the hyphen of an item of a list that is indented by `indent`. -/
def yamlItem (indent : Nat) : Document → String
  | null => "null\n"
  | bool b => boolText b ++ "\n"
  | natural n => toString n ++ "\n"
  | float x => Yaml.floatText x ++ "\n"
  | text s => Yaml.textLines (indent + 2) s
  | list items =>
    if items.isEmpty then "[]\n" else hang (indent + 2) (yamlItems (indent + 2) items)
  | record members =>
    if members.isEmpty then "\x7b\x7d\n" else hang (indent + 2) (yamlMembers (indent + 2) members)

/-- The items of a list, without the blanks before them. -/
def yamlItems (indent : Nat) : List Document → List String
  | [] => []
  | v :: rest => ("- " ++ yamlItem indent v) :: yamlItems indent rest

/-- The members of a record, without the blanks before them. -/
def yamlMembers (indent : Nat) : List (String × Document) → List String
  | [] => []
  | (name, v) :: rest => (name ++ ":" ++ yamlMember indent v) :: yamlMembers indent rest

end

/-- A document as YAML. The names of members are taken to be plain words. -/
def yaml : Document → String
  | record members => if members.isEmpty then "\x7b\x7d\n" else hang 0 (yamlMembers 0 members)
  | v => yamlItem 0 v

end Document

end Docking
