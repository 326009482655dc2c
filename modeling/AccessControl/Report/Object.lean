import AccessControl.Field.Basic

/-!
# Objects of fields

Checked values of the members of an object. A member under its alias goes before the same member
under its own name; members that no field asks for are ignored.
-/
namespace AccessControl.Field

def required {α : Type} (key : String) (check : Json → Checked α)
    (members : List (String × Json)) : Checked α :=
  Checked.under (.member key) <|
    match members.lookup key with
    | none => .fault .missing
    | some value => check value

def optional {α : Type} (key : String) (check : Json → Checked α) (byDefault : α)
    (members : List (String × Json)) : Checked α :=
  Checked.under (.member key) <|
    match members.lookup key with
    | none => .ok byDefault
    | some value => check value

/-- A member that has to be there under its alias or its name. -/
def aliased {α : Type} (outer name : String) (check : Json → Checked α)
    (members : List (String × Json)) : Checked α :=
  match members.lookup outer, members.lookup name with
  | none, some value => (check value).under (.member name)
  | _, _ => required outer check members

def nullable {α : Type} (check : Json → Checked α) : Json → Checked (Option α)
  | .null => .ok none
  | value => (check value).map some

def object {α : Type} (check : List (String × Json) → Checked α) : Json → Checked α
  | .obj members => check members
  | _ => .fault .notObject

end AccessControl.Field
