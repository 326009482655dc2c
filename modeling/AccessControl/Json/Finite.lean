import AccessControl.Json.Basic

/-!
# Finite values

Answers hold finite numbers only: strict JSON has no spelling for the others. A value is looked
through for numbers that are not finite, or has them replaced by null.
-/
namespace AccessControl

def Binary64.isFinite : Binary64 → Bool
  | .finite .. => true
  | _ => false

namespace Json

mutual

def isFinite : Json → Bool
  | .float value => value.isFinite
  | .arr items => allFinite items
  | .obj members => membersFinite members
  | _ => true

def allFinite : List Json → Bool
  | [] => true
  | item :: rest => item.isFinite && allFinite rest

def membersFinite : List (String × Json) → Bool
  | [] => true
  | (_, value) :: rest => value.isFinite && membersFinite rest

end

mutual

/-- A value with null in place of every number that is not finite. -/
def finitePart : Json → Json
  | .float value => if value.isFinite then .float value else .null
  | .arr items => .arr (finiteItems items)
  | .obj members => .obj (finiteMembers members)
  | value => value

def finiteItems : List Json → List Json
  | [] => []
  | item :: rest => item.finitePart :: finiteItems rest

def finiteMembers : List (String × Json) → List (String × Json)
  | [] => []
  | (key, value) :: rest => (key, value.finitePart) :: finiteMembers rest

end

end Json

end AccessControl
