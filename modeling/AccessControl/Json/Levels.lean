import AccessControl.Json.Basic

/-!
# Levels

How deep a value goes: a value that holds no others is one level, and a list or an object is one
more than the deepest value that it holds.
-/
namespace AccessControl.Json

mutual

/-- The number of levels of a value. -/
def levels : Json → Nat
  | .arr items => 1 + itemLevels items
  | .obj members => 1 + memberLevels members
  | _ => 1

def itemLevels : List Json → Nat
  | [] => 0
  | item :: rest => max item.levels (itemLevels rest)

def memberLevels : List (String × Json) → Nat
  | [] => 0
  | (_, value) :: rest => max value.levels (memberLevels rest)

end

end AccessControl.Json
