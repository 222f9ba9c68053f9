import Docking.Yaml.Block
import Docking.Yaml.Quoted
import Docking.Yaml.Tag
import Docking.Yaml.Token

/-!
# Finding tokens

The scanner goes through a text and keeps track of how far the open blocks are indented, and of the
places where a key may have begun. A key is known as one only when its colon is met; then the tokens
for the key, and for the mapping that it may begin, are put in where the key began.

## Main definitions

* `Scanner`: the state between two tokens.
* `Scanner.step?`: one token.
* `readTokens`: the tokens of a text.
-/

namespace Docking.Yaml

/-- A place where a key may have begun. -/
structure KeyStart where
  /-- The number of tokens before the key. -/
  token : Nat
  index : Nat
  line : Nat
  column : Nat
  /-- Whether there must be a key here, because a block mapping goes on at this column. -/
  required : Bool

/-- The state between two tokens. -/
structure Scanner where
  cursor : Cursor
  /-- The tokens so far, the last one first. -/
  tokens : List Token
  /-- The column of the innermost open block, or `-1`. -/
  indent : Int
  /-- The columns of the open blocks around it. -/
  outer : List Int
  /-- For each open bracket, and for the text outside of all brackets, the place where a key may
  have begun. The innermost one comes first. -/
  keys : List (Option KeyStart)
  /-- Whether a key may begin here. -/
  keyAllowed : Bool

namespace Scanner

/-- The state at the beginning of a text. -/
def start (cs : List Char) : Scanner := ⟨.start cs, [], -1, [], [none], true⟩

/-- Whether some bracket is open. -/
def inFlow (s : Scanner) : Bool := s.keys.length > 1

/-- Adds a token. -/
def push (s : Scanner) (t : Token) : Scanner := { s with tokens := t :: s.tokens }

/-- Puts a token in behind the first `count` ones. -/
def insertAt (s : Scanner) (count : Nat) (t : Token) : Scanner :=
  { s with tokens := s.tokens.insertIdx (s.tokens.length - count) t }

/-- Goes on by some characters of the line. -/
def advance (s : Scanner) (count : Nat) : Scanner := { s with cursor := s.cursor.advance count }

/-! ## Keys -/

/-- Whether a key that began at `k` has to end before the cursor: a key is on one line and is at
most 1024 characters long. -/
def isStale (c : Cursor) (k : KeyStart) : Bool := k.line < c.line || k.index + 1024 < c.index

/-- Forgets the places whose key would be too long. It is an error if there had to be one. -/
def dropStaleKeys (s : Scanner) : Option Scanner := do
  let keys ← s.keys.mapM fun key =>
    match key with
    | none => some none
    | some k => if isStale s.cursor k then if k.required then none else some none else some key
  some { s with keys }

/-- Sets the place of the innermost key. -/
def setKey (s : Scanner) (key : Option KeyStart) : Scanner :=
  { s with keys := key :: s.keys.tail }

/-- Gives the innermost key up. It is an error if there had to be one. -/
def forgetKey (s : Scanner) : Option Scanner :=
  match s.keys.head?.join with
  | some k => if k.required then none else some (s.setKey none)
  | none => some s

/-- Notes that a key may begin here. -/
def noteKey (s : Scanner) : Option Scanner :=
  if s.keyAllowed then
    let required := !s.inFlow && s.indent == (s.cursor.column : Int)
    s.forgetKey.map fun s =>
      s.setKey (some ⟨s.tokens.length, s.cursor.index, s.cursor.line, s.cursor.column, required⟩)
  else some s

/-! ## Blocks -/

/-- Opens a block at a column, if it is further right than the innermost one. The token is put in
behind the first `count` ones. -/
def openBlock (s : Scanner) (column count : Nat) (t : Token) : Scanner :=
  if s.inFlow || decide ((column : Int) ≤ s.indent) then s
  else { s.insertAt count t with indent := column, outer := s.indent :: s.outer }

/-- Closes blocks that are further right than a column. -/
def closeBlocksFrom (column : Int) (tokens : List Token) :
    Int → List Int → List Token × Int × List Int
  | indent, [] => (tokens, indent, [])
  | indent, next :: outer =>
    if indent ≤ column then (tokens, indent, next :: outer)
    else closeBlocksFrom column (.blockEnd :: tokens) next outer

/-- Closes blocks that are further right than a column. Brackets keep blocks open. -/
def closeBlocks (s : Scanner) (column : Int) : Scanner :=
  if s.inFlow then s
  else
    let (tokens, indent, outer) := closeBlocksFrom column s.tokens s.indent s.outer
    { s with tokens, indent, outer }

/-! ## Between tokens -/

/-- Skips blanks, comments and line breaks, in up to `fuel` steps. Tabs are blanks only where no key
can begin. A new line allows a key, except within brackets. -/
def skipToToken : (fuel : Nat) → Scanner → Scanner
  | 0, s => s
  | fuel + 1, s =>
    let c := s.cursor.skipWhile fun x => x = ' ' || ((s.inFlow || !s.keyAllowed) && x = '\t')
    let c := if c.next (· = '#') then c.skipWhile fun x => !isBreak x else c
    if c.next isBreak then
      skipToToken fuel { s with cursor := c.skipBreak, keyAllowed := s.keyAllowed || !s.inFlow }
    else { s with cursor := c }

/-! ## Single tokens -/

/-- A mark between documents. -/
def takeDocumentMark (s : Scanner) (t : Token) : Option Scanner :=
  (s.closeBlocks (-1)).forgetKey.map fun s => { s.advance 3 with keyAllowed := false }.push t

/-- A line that says something about the document that follows. -/
def takeDirective (s : Scanner) : Option Scanner := do
  let s ← (s.closeBlocks (-1)).forgetKey
  let (t, c) ← Yaml.takeDirective s.cursor
  some ({ s with cursor := c, keyAllowed := false }.push t)

/-- An opening bracket. -/
def takeOpening (s : Scanner) (t : Token) : Option Scanner :=
  s.noteKey.map fun s =>
    { s.advance 1 with keys := none :: s.keys, keyAllowed := true }.push t

/-- A closing bracket. -/
def takeClosing (s : Scanner) (t : Token) : Option Scanner :=
  s.forgetKey.map fun s =>
    let keys := if s.inFlow then s.keys.tail else s.keys
    { s.advance 1 with keys, keyAllowed := false }.push t

/-- A comma within brackets. -/
def takeFlowEntry (s : Scanner) : Option Scanner :=
  s.forgetKey.map fun s => { s.advance 1 with keyAllowed := true }.push .flowEntry

/-- The hyphen before an item. -/
def takeBlockEntry (s : Scanner) : Option Scanner :=
  if s.inFlow || s.keyAllowed then
    let s := s.openBlock s.cursor.column s.tokens.length .blockSequenceStart
    s.forgetKey.map fun s => { s.advance 1 with keyAllowed := true }.push .blockEntry
  else none

/-- The question mark before a key. -/
def takeKey (s : Scanner) : Option Scanner :=
  if s.inFlow || s.keyAllowed then
    let s := s.openBlock s.cursor.column s.tokens.length .blockMappingStart
    s.forgetKey.map fun s => { s.advance 1 with keyAllowed := !s.inFlow }.push .key
  else none

/-- The colon behind a key. If a key has begun, it is a key now. -/
def takeValue (s : Scanner) : Option Scanner :=
  match s.keys.head?.join with
  | some k =>
    let s := (s.insertAt k.token .key).openBlock k.column k.token .blockMappingStart
    some ({ (s.setKey none).advance 1 with keyAllowed := false }.push .value)
  | none =>
    if s.inFlow || s.keyAllowed then
      let s := s.openBlock s.cursor.column s.tokens.length .blockMappingStart
      some ({ s.advance 1 with keyAllowed := !s.inFlow }.push .value)
    else none

/-- Whether a character can follow a name directly. -/
def isNameEnd (c : Char) : Bool := ['?', ':', ',', ']', '\x7d', '%', '@', '\x60'].contains c

/-- An anchor or an alias, from its mark on. -/
def takeName (s : Scanner) (make : String → Token) : Option Scanner := do
  let s ← s.noteKey
  let (name, c) := (s.cursor.advance 1).takeWhile isNameChar
  if name.isEmpty || !(endsWord c.rest || c.next isNameEnd) then none
  else some ({ s with cursor := c, keyAllowed := false }.push (make (String.ofList name)))

/-- A tag. -/
def takeTag (s : Scanner) : Option Scanner := do
  let s ← s.noteKey
  let (t, c) ← Yaml.takeTag s.inFlow s.cursor
  some ({ s with cursor := c, keyAllowed := false }.push t)

/-- A block of lines. -/
def takeBlock (s : Scanner) (literal : Bool) : Option Scanner := do
  let s ← s.forgetKey
  let (text, c) ← Yaml.takeBlock literal s.indent s.cursor
  let style := if literal then ScalarStyle.literal else .folded
  some ({ s with cursor := c, keyAllowed := true }.push (.scalar (String.ofList text) style))

/-- A scalar between quotes. -/
def takeQuoted (s : Scanner) (single : Bool) : Option Scanner := do
  let s ← s.noteKey
  let (text, c) ← Yaml.takeQuoted single s.cursor
  some ({ s with cursor := c, keyAllowed := false }.push (.scalar (String.ofList text) .quoted))

/-- A plain scalar. A key may begin behind it if it ends with a line. -/
def takePlain (s : Scanner) : Option Scanner := do
  let s ← s.noteKey
  let (text, c, fresh) ← Yaml.takePlain s.inFlow (s.indent + 1).toNat s.cursor
  some ({ s with cursor := c, keyAllowed := fresh }.push (.scalar (String.ofList text) .plain))

/-- The characters that mean something at the beginning of a token. -/
def isIndicator (c : Char) : Bool :=
  ['-', '?', ':', ',', '[', ']', '\x7b', '\x7d', '#', '&', '*', '!', '|', '>', '\'', '"', '%', '@',
    '\x60'].contains c

/-- Whether a plain scalar may begin with `c` in front of `rest`. -/
def beginsPlain (flow : Bool) (c : Char) (rest : List Char) : Bool :=
  !(isIndicator c || isBlank c || isBreak c) || (c = '-' && !rest.head?.any isBlank) ||
    (!flow && (c = '?' || c = ':') && !endsWord rest)

/-- The token that begins with `c` in front of `rest`. -/
def takeToken (s : Scanner) (c : Char) (rest : List Char) : Option Scanner :=
  let flow := s.inFlow
  if s.cursor.column == 0 && c = '%' then s.takeDirective
  else if s.cursor.atMark ['-', '-', '-'] then s.takeDocumentMark .documentStart
  else if s.cursor.atMark ['.', '.', '.'] then s.takeDocumentMark .documentEnd
  else if c = '[' then s.takeOpening .flowSequenceStart
  else if c = '\x7b' then s.takeOpening .flowMappingStart
  else if c = ']' then s.takeClosing .flowSequenceEnd
  else if c = '\x7d' then s.takeClosing .flowMappingEnd
  else if c = ',' then s.takeFlowEntry
  else if c = '-' ∧ endsWord rest then s.takeBlockEntry
  else if c = '?' ∧ (flow ∨ endsWord rest) then s.takeKey
  else if c = ':' ∧ (flow ∨ endsWord rest) then s.takeValue
  else if c = '*' then s.takeName .aliasOf
  else if c = '&' then s.takeName .anchor
  else if c = '!' then s.takeTag
  else if c = '|' ∧ !flow then s.takeBlock true
  else if c = '>' ∧ !flow then s.takeBlock false
  else if c = '\'' then s.takeQuoted true
  else if c = '"' then s.takeQuoted false
  else if beginsPlain flow c rest then s.takePlain
  else none

/-- Closes all blocks at the end of the text. -/
def finish (s : Scanner) : Option (List Token) :=
  (s.closeBlocks (-1)).forgetKey.map fun s => s.tokens.reverse

/-- The tokens of the rest of a text, of which there are at most `fuel`. -/
def run : (fuel : Nat) → Scanner → Option (List Token)
  | 0, _ => none
  | fuel + 1, s => do
    let s ← (skipToToken (s.cursor.rest.length + 1) s).dropStaleKeys
    let s := s.closeBlocks s.cursor.column
    match s.cursor.rest with
    | [] => s.finish
    | c :: rest => run fuel (← s.takeToken c rest)

end Scanner

/-- The tokens of a text. A mark for the order of bytes may stand at the very beginning. -/
def readTokens (cs : List Char) : Option (List Token) :=
  let cs := if cs.head? = some '\ufeff' then cs.drop 1 else cs
  if cs.all isAllowed then Scanner.run (cs.length + 1) (.start cs) else none

end Docking.Yaml
