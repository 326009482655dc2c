import AccessControl.Json.Display
import AccessControl.Permission.Basic

/-!
# Reading permissions

Three readers of permission values. `Permission.read` answers queries and says what is wrong with
a value; `Permission.read?` takes role data and passes over what it cannot use;
`Permission.readScope` needs the scope alone. Segments after the third are ignored, and an empty
third segment is a resource.
-/
namespace AccessControl

inductive Malformation
  | notText
  | missingScope
  | missingAction
  | unknownAction (token : String)
  deriving DecidableEq, Repr

def Malformation.text : Malformation → String
  | .notText => "permission must be a string"
  | .missingScope => "missing scope segment"
  | .missingAction => "missing action segment"
  | .unknownAction token =>
    "unknown action " ++ Text.quoted token ++ ", expected one of: " ++
      String.intercalate ", " (Action.all.map Action.text)

structure MalformedPermission where
  permission : Json
  reason : Malformation
  deriving DecidableEq, Repr

def malformedMessage (permission : Json) (reason : String) : String :=
  "Invalid permission string " ++ permission.display ++ ": " ++ reason

def MalformedPermission.message (e : MalformedPermission) : String :=
  malformedMessage e.permission e.reason.text

namespace Permission

/-- The characters before the first separator and, when there is one, those after it. -/
def cut (cs : List Char) : List Char × Option (List Char) :=
  match cs.dropWhile (· ≠ separator) with
  | [] => (cs, none)
  | _ :: rest => (cs.takeWhile (· ≠ separator), some rest)

/-- The first three segments of a spelling. -/
structure Segments where
  scope : String
  action : String
  resource : String
  deriving DecidableEq, Repr

/-- The segments of a spelling: a missing action is empty, a missing resource the default one. -/
def segments (spelling : String) : Segments :=
  let (scope, rest) := cut spelling.toList
  match rest with
  | none => ⟨String.ofList scope, "", defaultResource⟩
  | some rest =>
    let (action, rest) := cut rest
    match rest with
    | none => ⟨String.ofList scope, String.ofList action, defaultResource⟩
    | some rest => ⟨String.ofList scope, String.ofList action, String.ofList (cut rest).1⟩

/-- The permission of a queried value. -/
def read (value : Json) : Except MalformedPermission Permission :=
  match value with
  | .str spelling =>
    let s := segments spelling
    if s.scope = "" then .error ⟨value, .missingScope⟩
    else if s.action = "" then .error ⟨value, .missingAction⟩
    else
      match Action.ofText? s.action with
      | none => .error ⟨value, .unknownAction s.action⟩
      | some action => .ok ⟨s.scope, action, s.resource⟩
  | value => .error ⟨value, .notText⟩

/-- The permission of a granted value, if it is usable. -/
def read? : Json → Option Permission
  | .str spelling =>
    let s := segments spelling
    match Action.ofText? s.action with
    | none => none
    | some action => if s.scope = "" then none else some ⟨s.scope, action, s.resource⟩
  | _ => none

/-- The scope of a queried value, whatever its action and resource. -/
def readScope (value : Json) : Except MalformedPermission String :=
  match value with
  | .str spelling =>
    let s := segments spelling
    if s.scope = "" then .error ⟨value, .missingScope⟩ else .ok s.scope
  | value => .error ⟨value, .notText⟩

end Permission

end AccessControl
