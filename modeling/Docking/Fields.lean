/-!
# Fields by name and by position

A structured value is given either as a record, whose members are found by name, or as a list, whose
items are fields in order. Both are turned into one slot for each field: what is given for the
field, or nothing.

A record may hold names that are no field's, which are passed over, but it may not give one field
twice. A list may end early but may not be longer than the fields.
-/

namespace Docking.Fields

variable {α : Type}

/-- What a record gives for a field that has the given names, unless it gives it twice. -/
def slotNamed (members : List (String × α)) (names : List String) : Option (Option α) :=
  match members.filter fun m => names.contains m.1 with
  | [] => some none
  | [m] => some (some m.2)
  | _ => none

/-- The slots of the fields of a record. Each field is listed with all the names it goes by. -/
def byName (fields : List (List String)) (members : List (String × α)) : Option (List (Option α)) :=
  fields.mapM (slotNamed members)

/-- The slots of `count` fields that are given in order. -/
def byPosition (count : Nat) (items : List α) : Option (List (Option α)) :=
  if items.length ≤ count then
    some (items.map some ++ List.replicate (count - items.length) none)
  else none

/-- What a slot holds as the field's type, or the field's default. -/
def orElse (slot : Option α) (default : β) (read : α → Option β) : Option β :=
  match slot with
  | none => some default
  | some v => read v

/-- What a slot holds as the field's type. The field must be given. -/
def required (slot : Option α) (read : α → Option β) : Option β := slot.bind read

end Docking.Fields
