import AccessControl.Json.Basic

/-!
# Values as endpoints show them

What code behind a route gives is shown without internal members, which are those whose keys start
with a mark of their own.
-/
namespace AccessControl.Json

/-- How the keys of internal members start. -/
def internalMark : String := "_sa"

def isInternalKey (key : String) : Bool :=
  internalMark.toList.isPrefixOf key.toList

mutual

/-- The value without internal members, however deep they are. -/
def outward : Json → Json
  | .arr items => .arr (outwardItems items)
  | .obj members => .obj (outwardMembers members)
  | value => value

def outwardItems : List Json → List Json
  | [] => []
  | item :: rest => item.outward :: outwardItems rest

def outwardMembers : List (String × Json) → List (String × Json)
  | [] => []
  | (key, value) :: rest =>
    if isInternalKey key then outwardMembers rest
    else (key, value.outward) :: outwardMembers rest

end

end AccessControl.Json
