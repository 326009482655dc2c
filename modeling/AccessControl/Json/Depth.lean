import AccessControl.Json.Basic

/-!
# Depth

How deep the lists and objects of a value are nested. Values that are nested too deep are neither
read nor written.
-/
namespace AccessControl.Json

mutual

/-- How many lists and objects of a value stand inside one another. -/
def depth : Json → Nat
  | .arr items => 1 + itemDepth items
  | .obj members => 1 + memberDepth members
  | _ => 0

def itemDepth : List Json → Nat
  | [] => 0
  | item :: rest => max item.depth (itemDepth rest)

def memberDepth : List (String × Json) → Nat
  | [] => 0
  | (_, value) :: rest => max value.depth (memberDepth rest)

end

end AccessControl.Json
