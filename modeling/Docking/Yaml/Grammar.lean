import Docking.Yaml.Node
import Docking.Yaml.Scanner

/-!
# The grammar of YAML

The tokens of a text make up documents. A text may hold one document or none.

The functions of this module read from the front of the tokens that are left. What they call each
other for is at most as often nested as there are tokens, which bounds the depth of the recursion.

## Main definitions

* `readDocument`: the document of a text.
-/

namespace Docking.Yaml

/-- What is known while a document is read. -/
structure Reading where
  /-- The tokens that are left. -/
  tokens : List Token
  /-- The anchors so far, under their names, with their numbers. -/
  anchors : List (String × Nat)
  /-- The shorthands for tags. -/
  shorthands : List (String × String)

/-- Reading from tokens. It fails where the tokens are no document. -/
abbrev Reader := StateT Reading Option

namespace Reader

/-- The next token. -/
def peek : Reader (Option Token) := do return (← get).tokens.head?

/-- Skips the next token. -/
def skip : Reader Unit := modify fun r => { r with tokens := r.tokens.tail }

/-- Skips the next token if it is `t`, and tells whether it was. -/
def accept (t : Token) : Reader Bool := do
  if (← peek) = some t then
    skip
    return true
  else return false

/-- Skips the next token, which must be `t`. -/
def expect (t : Token) : Reader Unit := do
  if !(← accept t) then failure

/-- Whether the next token is one of several, or there is none. -/
def atOneOf (ts : List Token) : Reader Bool := do
  match ← peek with
  | none => return true
  | some t => return ts.contains t

/-- Numbers an anchor. -/
def nameAnchor (name : String) : Reader Nat := do
  let r ← get
  let number := r.anchors.length
  set { r with anchors := (name, number) :: r.anchors.filter fun a => a.1 != name }
  return number

/-- A tag in full. -/
def resolveTag (handle suffix : String) : Reader String := do
  if handle.isEmpty then return suffix
  else
    match (← get).shorthands.lookup handle with
    | some meaning => return meaning ++ suffix
    | none => failure

/-- An anchor, if there is one. -/
def takeAnchor : Reader (Option String) := do
  match ← peek with
  | some (.anchor name) =>
    skip
    return some name
  | _ => return none

/-- A tag, if there is one. -/
def takeTag : Reader (Option String) := do
  match ← peek with
  | some (.tag handle suffix) =>
    skip
    return some (← resolveTag handle suffix)
  | _ => return none

/-- The properties in front of a node, in either order. -/
def takeProperties : Reader Properties := do
  match ← takeAnchor with
  | some name =>
    let tag ← takeTag
    return ⟨tag, some (← nameAnchor name)⟩
  | none =>
    let tag ← takeTag
    match ← takeAnchor with
    | some name => return ⟨tag, some (← nameAnchor name)⟩
    | none => return ⟨tag, none⟩

/-- A tag that says no more than that a scalar is a text says nothing here. -/
def Properties.ofScalar (p : Properties) : Properties :=
  if p.tag = some "!" then { p with tag := none } else p

/-- A node that is not written at all, without properties. -/
def nothing : Node := .absent ⟨none, none⟩

mutual

/-- A node. Blocks are allowed if `block`, and a sequence that is not indented if `indentless`. -/
def node : (fuel : Nat) → (block indentless : Bool) → Reader Node
  | 0, _, _ => failure
  | fuel + 1, block, indentless => do
    match ← peek with
    | some (.aliasOf name) =>
      skip
      match (← get).anchors.lookup name with
      | some number => return .aliasOf number
      | none => failure
    | _ =>
      let p ← takeProperties
      match ← peek, block, indentless with
      | some .blockEntry, _, true => return .sequence p (← indentlessItems fuel)
      | some (.scalar text style), _, _ =>
        skip
        return .scalar (Properties.ofScalar p) text style
      | some .flowSequenceStart, _, _ =>
        skip
        return .sequence p (← flowItems fuel true)
      | some .flowMappingStart, _, _ =>
        skip
        return .mapping p (← flowMembers fuel true)
      | some .blockSequenceStart, true, _ =>
        skip
        return .sequence p (← blockItems fuel)
      | some .blockMappingStart, true, _ =>
        skip
        return .mapping p (← blockMembers fuel)
      | _, _, _ => if p.tag.isSome || p.anchor.isSome then return .absent p else failure

/-- A node, unless one of the tokens `ends` shows that there is none. -/
def nodeUnless : (fuel : Nat) → (block indentless : Bool) → List Token → Reader Node
  | 0, _, _, _ => failure
  | fuel + 1, block, indentless, ends => do
    if ← atOneOf ends then return nothing else node fuel block indentless

/-- The items of a block sequence, up to its end. -/
def blockItems : (fuel : Nat) → Reader (List Node)
  | 0 => failure
  | fuel + 1 => do
    if ← accept .blockEntry then
      let item ← nodeUnless fuel true false [.blockEntry, .blockEnd]
      return item :: (← blockItems fuel)
    else
      expect .blockEnd
      return []

/-- The items of a sequence that is not indented. -/
def indentlessItems : (fuel : Nat) → Reader (List Node)
  | 0 => failure
  | fuel + 1 => do
    if ← accept .blockEntry then
      let item ← nodeUnless fuel true false [.blockEntry, .key, .value, .blockEnd]
      return item :: (← indentlessItems fuel)
    else return []

/-- What stands behind a colon, if there is one. -/
def blockValue : (fuel : Nat) → Reader Node
  | 0 => failure
  | fuel + 1 => do
    if ← accept .value then nodeUnless fuel true true [.key, .value, .blockEnd] else return nothing

/-- The members of a block mapping, up to its end. -/
def blockMembers : (fuel : Nat) → Reader (List (Node × Node))
  | 0 => failure
  | fuel + 1 => do
    if ← accept .key then
      let key ← nodeUnless fuel true true [.key, .value, .blockEnd]
      let value ← blockValue fuel
      return (key, value) :: (← blockMembers fuel)
    else
      expect .blockEnd
      return []

/-- The items of a sequence in brackets, up to its end. -/
def flowItems : (fuel : Nat) → (first : Bool) → Reader (List Node)
  | 0, _ => failure
  | fuel + 1, first => do
    if ← accept .flowSequenceEnd then return []
    else
      if !first then expect .flowEntry
      if ← accept .key then
        let item ← flowPair fuel
        return item :: (← flowItems fuel false)
      else if ← accept .flowSequenceEnd then return []
      else
        let item ← node fuel false false
        return item :: (← flowItems fuel false)

/-- A single member without braces, in a sequence in brackets. Where its key is absent, the token
that shows this is passed over. -/
def flowPair : (fuel : Nat) → Reader Node
  | 0 => failure
  | fuel + 1 => do
    let ends := [Token.value, .flowEntry, .flowSequenceEnd]
    let absent ← atOneOf ends
    let key ← nodeUnless fuel false false ends
    if absent then skip
    if ← accept .value then
      let value ← nodeUnless fuel false false [.flowEntry, .flowSequenceEnd]
      return .mapping ⟨none, none⟩ [(key, value)]
    else return .mapping ⟨none, none⟩ [(key, nothing)]

/-- The members of a mapping in braces, up to its end. -/
def flowMembers : (fuel : Nat) → (first : Bool) → Reader (List (Node × Node))
  | 0, _ => failure
  | fuel + 1, first => do
    if ← accept .flowMappingEnd then return []
    else
      if !first then expect .flowEntry
      if ← accept .key then
        let key ← nodeUnless fuel false false [.value, .flowEntry, .flowMappingEnd]
        let value ← flowValue fuel
        return (key, value) :: (← flowMembers fuel false)
      else if ← accept .flowMappingEnd then return []
      else
        let key ← node fuel false false
        return (key, nothing) :: (← flowMembers fuel false)

/-- What stands behind a colon in braces, if there is one. -/
def flowValue : (fuel : Nat) → Reader Node
  | 0 => failure
  | fuel + 1 => do
    if ← accept .value then nodeUnless fuel false false [.flowEntry, .flowMappingEnd]
    else return nothing

end

/-! ## Documents -/

/-- The shorthands that are always known. -/
def commonShorthands : List (String × String) :=
  [("!", "!"), ("!!", "tag:yaml.org,2002:")]

/-- Reads the directives in front of a document, of which there are at most `fuel`. A version may be
given once, and only versions 1.1 and 1.2 are known. A shorthand may be given once. -/
def directives : (fuel : Nat) → (version : Bool) → List (String × String) →
    Reader (List (String × String))
  | 0, _, _ => failure
  | fuel + 1, version, shorthands => do
    match ← peek with
    | some (.version major minor) =>
      skip
      if version || major != 1 || (minor != 1 && minor != 2) then failure
      else directives fuel true shorthands
    | some (.tagShorthand handle meaning) =>
      skip
      if (shorthands.lookup handle).isSome then failure
      else directives fuel version ((handle, meaning) :: shorthands)
    | _ => return shorthands

/-- Skips marks at the end of a document, of which there are at most `fuel`. -/
def skipEnds : (fuel : Nat) → Reader Unit
  | 0 => return ()
  | fuel + 1 => do if ← accept .documentEnd then skipEnds fuel

/-- Whether a token stands before or behind the contents of a document. -/
def isOutside : Token → Bool
  | .version .. | .tagShorthand .. | .documentStart | .documentEnd => true
  | _ => false

/-- A document that begins with directives or with its mark. -/
def explicitDocument (fuel : Nat) : Reader Node := do
  let shorthands ← directives fuel false []
  expect .documentStart
  modify fun r => { r with shorthands := shorthands ++ commonShorthands }
  match ← peek with
  | none => return nothing
  | some t => if isOutside t then return nothing else node fuel true false

/-- The document of a text, if there is one. Nothing may follow it but the mark of its end. -/
def document (fuel : Nat) : Reader (Option Node) := do
  match ← peek with
  | none => return none
  | some t =>
    let root ←
      match t with
      | .version .. | .tagShorthand .. | .documentStart => explicitDocument fuel
      | _ => node fuel true false
    skipEnds fuel
    match ← peek with
    | none => return some root
    | some _ => failure

end Reader

/-- The document of a text. The first part of the result fails if the text is no YAML or holds
several documents; the second part is absent if it holds none. -/
def readDocument (s : String) : Option (Option Node) := do
  let tokens ← readTokens s.toList
  let fuel := 4 * tokens.length + 16
  ((Reader.document fuel).run ⟨tokens, [], Reader.commonShorthands⟩).map Prod.fst

end Docking.Yaml
