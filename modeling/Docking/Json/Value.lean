import Docking.Fields
import Docking.Json.Token

/-!
# JSON values

A value is built by a machine that takes one token at a time. It keeps the containers that are not
yet closed, innermost first, and the `Place` in the innermost one where the next token goes, so the
depth of a value is bounded by nothing but its text.

## Main definitions

* `Json`: a value.
* `Json.ofTokens?`, `Json.parse?`: the value that makes up the whole of a row of tokens, or of a
  text.
-/

namespace Docking

/-- A JSON value. Members of a record are in the order of the text and may repeat a name. -/
inductive Json where
  | null
  | bool (value : Bool)
  | number (value : Json.Number)
  /-- A string. It has no value where a half of a pair of units is alone. -/
  | text (value : Option String)
  | list (items : List Json)
  | record (members : List (Option String × Json))

namespace Json

instance : Inhabited Json := ⟨null⟩

/-- A container that is not yet closed. What is done of it is kept last first. -/
inductive Frame where
  | list (done : List Json)
  | record (done : List (Option String × Json)) (name : Option String)

/-- What the next token has to be. -/
inductive Place where
  /-- A value, or the end of a list if nothing is in it yet. -/
  | value (first : Bool)
  /-- The name of a member, or the end of the record if nothing is in it yet. -/
  | name (first : Bool) (done : List (Option String × Json))
  /-- A colon. -/
  | colon (done : List (Option String × Json)) (name : Option String)
  /-- A comma or the end of the container around the value. -/
  | after (value : Json)

/-- A value that is being read. -/
structure Reading where
  place : Place
  frames : List Frame

/-- The value of a token that is a value by itself. -/
def Token.scalar? : Token → Option Json
  | .text s => some (.text s)
  | .number n => some (.number n)
  | .bool b => some (.bool b)
  | .null => some .null
  | _ => none

/-- Takes one token where a value is expected. -/
def Reading.takeValue (first : Bool) (frames : List Frame) : Token → Option Reading
  | .openList => some ⟨.value true, .list [] :: frames⟩
  | .openRecord => some ⟨.name true [], frames⟩
  | .closeList =>
    match first, frames with
    | true, .list done :: frames => some ⟨.after (.list done.reverse), frames⟩
    | _, _ => none
  | token => token.scalar?.map fun v => ⟨.after v, frames⟩

/-- Takes one token behind a value. -/
def Reading.takeAfter (v : Json) : List Frame → Token → Option Reading
  | .list done :: frames, .comma => some ⟨.value false, .list (v :: done) :: frames⟩
  | .list done :: frames, .closeList => some ⟨.after (.list (v :: done).reverse), frames⟩
  | .record done name :: frames, .comma => some ⟨.name false ((name, v) :: done), frames⟩
  | .record done name :: frames, .closeRecord =>
    some ⟨.after (.record ((name, v) :: done).reverse), frames⟩
  | _, _ => none

/-- Takes one token. -/
def Reading.step (r : Reading) (token : Token) : Option Reading :=
  match r.place, token with
  | .value first, token => Reading.takeValue first r.frames token
  | .name _ done, .text name => some ⟨.colon done name, r.frames⟩
  | .name true done, .closeRecord => some ⟨.after (.record done.reverse), r.frames⟩
  | .name _ _, _ => none
  | .colon done name, .colon => some ⟨.value false, .record done name :: r.frames⟩
  | .colon _ _, _ => none
  | .after v, token => Reading.takeAfter v r.frames token

/-- The value that has been read, if every container is closed. -/
def Reading.result? (r : Reading) : Option Json :=
  match r.place, r.frames with
  | .after v, [] => some v
  | _, _ => none

/-- The value that makes up the whole of a row of tokens. -/
def ofTokens? (tokens : List Token) : Option Json :=
  (tokens.foldlM Reading.step ⟨.value false, []⟩).bind Reading.result?

/-- The value that makes up the whole of a text. -/
def parse? (s : String) : Option Json := (readTokens s.toList).bind ofTokens?

/-! ## Looking at values -/

/-- A string that has a value. -/
def text? : Json → Option String
  | text s => s
  | _ => none

/-- A truth value. -/
def bool? : Json → Option Bool
  | bool b => some b
  | _ => none

/-- A number. -/
def number? : Json → Option Number
  | number n => some n
  | _ => none

/-- The items of a list. -/
def list? : Json → Option (List Json)
  | list items => some items
  | _ => none

/-- A member whose name has a value. -/
def namedMember? (m : Option String × Json) : Option (String × Json) :=
  m.1.map fun name => (name, m.2)

/-- The slots of the fields of a structured value, which is a record or a list. All names in a
record must have a value. -/
def slots? (fields : List (List String)) : Json → Option (List (Option Json))
  | record members =>
    (members.mapM namedMember?).bind (Fields.byName fields)
  | list items => Fields.byPosition fields.length items
  | _ => none

/-- A value that may be absent, which `null` says. -/
def orNull? (read : Json → Option α) : Json → Option (Option α)
  | null => some none
  | v => (read v).map some

end Json

end Docking
