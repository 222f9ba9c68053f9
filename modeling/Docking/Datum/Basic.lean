import Docking.Json.Value

/-!
# Data

A datum is a value that has been read but not yet understood: what JSON and YAML have in common.
Keys of a record are data themselves, since in YAML they need not be texts.
-/

namespace Docking

/-- A value that has been read. -/
inductive Datum where
  | null
  | bool (value : Bool)
  /-- An integer from zero to below `2 ^ 64`. -/
  | natural (value : Nat)
  /-- An integer that is written with a minus sign. -/
  | negative (value : Int)
  | float (value : Float)
  | text (value : String)
  | list (items : List Datum)
  | record (members : List (Datum × Datum))

namespace Datum

instance : Inhabited Datum := ⟨null⟩

/-- A text. -/
def text? : Datum → Option String
  | text s => some s
  | _ => none

/-- A truth value. -/
def bool? : Datum → Option Bool
  | bool b => some b
  | _ => none

/-- An integer that is not negative. -/
def natural? : Datum → Option Nat
  | natural n => some n
  | negative i => if i < 0 then none else some i.toNat
  | _ => none

/-- Any number, as a 32-bit float. -/
def float32? : Datum → Option Float32
  | natural n => some (Decimal.ofNatural n)
  | negative i => some (Decimal.ofInteger i)
  | float x => some x.toFloat32
  | _ => none

/-- A value that may be absent, which `null` says. -/
def orNull? (read : Datum → Option α) : Datum → Option (Option α)
  | null => some none
  | v => (read v).map some

/-- A number of JSON. -/
def ofNumber? (n : Json.Number) : Option Datum :=
  match n.natural?, n.negative? with
  | some value, _ => some (natural value)
  | none, some value => some (negative value)
  | none, none => n.float?.map float

mutual

/-- A value of JSON. All strings must have values and no number may be too large. -/
def ofJson? : Json → Option Datum
  | .null => some null
  | .bool b => some (bool b)
  | .number n => ofNumber? n
  | .text s => s.map text
  | .list items => (ofJsonItems? items).map list
  | .record members => (ofJsonMembers? members).map record

/-- The items of a list. -/
def ofJsonItems? : List Json → Option (List Datum)
  | [] => some []
  | v :: rest => do
    let v ← ofJson? v
    let rest ← ofJsonItems? rest
    some (v :: rest)

/-- The members of a record. -/
def ofJsonMembers? : List (Option String × Json) → Option (List (Datum × Datum))
  | [] => some []
  | (name, v) :: rest => do
    let name ← name
    let v ← ofJson? v
    let rest ← ofJsonMembers? rest
    some ((text name, v) :: rest)

end

end Datum

end Docking
