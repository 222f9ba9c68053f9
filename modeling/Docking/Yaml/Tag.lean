import Docking.Text.Hex
import Docking.Yaml.Cursor
import Docking.Yaml.Token

/-!
# Tags and directives

A tag says what a value is meant to be. It is written in full between angle brackets, or as a
shorthand and the rest of the tag. Directives, before a document, say which version of YAML is meant
and what shorthands stand for.
-/

namespace Docking.Yaml

/-- The characters of tags. -/
def isTagChar (c : Char) : Bool :=
  isNameChar c ||
    [';', '/', '?', ':', '@', '&', '=', '+', '$', '.', '!', '~', '*', '\'', '(', ')'].contains c

/-- A byte behind a percent sign. -/
def takeByte : List Char → Option (Nat × List Char)
  | '%' :: a :: b :: rest =>
    match Text.hexValue? a, Text.hexValue? b with
    | some a, some b => some (a * 16 + b, rest)
    | _, _ => none
  | _ => none

/-- The number of bytes that follow the first byte of a character, and what the first byte gives. -/
def byteLead? (byte : Nat) : Option (Nat × Nat) :=
  if byte < 0x80 then some (0, byte)
  else if 0xC0 ≤ byte ∧ byte < 0xE0 then some (1, byte % 0x20)
  else if 0xE0 ≤ byte ∧ byte < 0xF0 then some (2, byte % 0x10)
  else if 0xF0 ≤ byte ∧ byte < 0xF8 then some (3, byte % 0x08)
  else none

/-- The further bytes of a character. -/
def takeTrail : (count : Nat) → Nat → List Char → Option (Nat × List Char)
  | 0, value, rest => some (value, rest)
  | count + 1, value, rest =>
    match takeByte rest with
    | some (byte, rest) =>
      if byte / 0x40 = 2 then takeTrail count (value * 0x40 + byte % 0x40) rest else none
    | none => none

/-- The least number that needs as many bytes. -/
def leastOf (trail : Nat) : Nat :=
  if trail = 0 then 0 else if trail = 1 then 0x80 else if trail = 2 then 0x800 else 0x10000

/-- A character that is written as bytes behind percent signs. -/
def takePercent (cs : List Char) : Option (Char × List Char) := do
  let (byte, rest) ← takeByte cs
  let (trail, value) ← byteLead? byte
  let (value, rest) ← takeTrail trail value rest
  guard (value.isValidChar && decide (leastOf trail ≤ value))
  return (Char.ofNat value, rest)

/-- The rest of a tag, of up to `fuel` characters. Brackets and commas belong to it if `full`. -/
def takeUriFrom (full : Bool) : (fuel : Nat) → List Char → Option (List Char × List Char)
  | 0, _ => none
  | _, [] => some ([], [])
  | fuel + 1, c :: rest =>
    if c = '%' then do
      let (x, rest) ← takePercent (c :: rest)
      let (more, rest) ← takeUriFrom full fuel rest
      some (x :: more, rest)
    else if isTagChar c || (full && (c = ',' || c = '[' || c = ']')) then
      (takeUriFrom full fuel rest).map fun (more, rest) => (c :: more, rest)
    else some ([], c :: rest)

/-- The characters of a tag. -/
def takeUri (full : Bool) (cs : List Char) : Option (List Char × List Char) :=
  takeUriFrom full (cs.length + 1) cs

/-- The beginning of a tag: an exclamation mark, a name, and perhaps another exclamation mark. -/
def takeHandle : List Char → Option (List Char × List Char)
  | '!' :: rest =>
    let name := rest.takeWhile isNameChar
    match rest.dropWhile isNameChar with
    | '!' :: rest => some ('!' :: name ++ ['!'], rest)
    | rest => some ('!' :: name, rest)
  | _ => none

/-- A tag in full, from its angle bracket on. -/
def takeFullTag (cs : List Char) : Option (Token × List Char) :=
  match takeUri true cs with
  | some (c :: uri, '>' :: rest) => some (.tag "" (String.ofList (c :: uri)), rest)
  | _ => none

/-- A tag with a shorthand. What follows a single exclamation mark is all of the tag. -/
def takeShortTag (cs : List Char) : Option (Token × List Char) := do
  let (handle, rest) ← takeHandle cs
  if handle.length > 1 ∧ handle.getLast? = some '!' then
    let (suffix, rest) ← takeUri false rest
    if suffix.isEmpty then none
    else some (.tag (String.ofList handle) (String.ofList suffix), rest)
  else
    let (suffix, rest) ← takeUri false rest
    let suffix := handle.drop 1 ++ suffix
    if suffix.isEmpty then some (.tag "" "!", rest)
    else some (.tag "!" (String.ofList suffix), rest)

/-- A tag, behind which a word has to end. Within brackets a comma may follow. -/
def takeTag (flow : Bool) (c : Cursor) : Option (Token × Cursor) := do
  let (t, rest) ←
    match c.rest with
    | '!' :: '<' :: rest => takeFullTag rest
    | rest => takeShortTag rest
  if endsWord rest || (flow && rest.head? == some ',') then some (t, c.advanceTo rest) else none

/-! ## Directives -/

/-- A part of a version number, of at most nine digits. -/
def takeVersionPart (cs : List Char) : Option (Nat × List Char) :=
  let digits := cs.takeWhile Char.isDigit
  if digits.isEmpty || decide (digits.length > 9) then none
  else some (digits.foldl (fun n c => n * 10 + (c.toNat - '0'.toNat)) 0, cs.dropWhile Char.isDigit)

/-- The version that a document claims to follow. -/
def takeVersion (cs : List Char) : Option (Token × List Char) := do
  match ← takeVersionPart (cs.dropWhile isBlank) with
  | (major, '.' :: rest) =>
    let (minor, rest) ← takeVersionPart rest
    some (.version major minor, rest)
  | _ => none

/-- A shorthand and what it stands for. -/
def takeShorthand (cs : List Char) : Option (Token × List Char) := do
  let (handle, rest) ← takeHandle (cs.dropWhile isBlank)
  if handle ≠ ['!'] ∧ handle.getLast? ≠ some '!' then none
  else if !rest.head?.any isBlank then none
  else
    let (meaning, rest) ← takeUri true (rest.dropWhile isBlank)
    if meaning.isEmpty || !endsWord rest then none
    else some (.tagShorthand (String.ofList handle) (String.ofList meaning), rest)

/-- A directive, which takes up a line. -/
def takeDirective (c : Cursor) : Option (Token × Cursor) := do
  let (name, c) := (c.advance 1).takeWhile isNameChar
  if !endsWord c.rest then none
  else
    let (t, rest) ←
      if name = ['Y', 'A', 'M', 'L'] then takeVersion c.rest
      else if name = ['T', 'A', 'G'] then takeShorthand c.rest
      else none
    some (t, ← (c.advanceTo rest).finishLine)

end Docking.Yaml
