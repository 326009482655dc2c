import AccessControl.Json.Levels
import AccessControl.Permission.Basic
import AccessControl.Vocabulary

/-!
# Roles

A role is a named bundle of permission entries that all apply in one context. Roles come from
outside as JSON: the identifier, name, description and entries are kept as they are, the context
has to be known and the entries have to be something that yields values one by one.
-/
namespace AccessControl

structure Role where
  id : Json
  name : Json
  context : Context
  permissions : List Json
  description : Json
  deriving DecidableEq, Repr

/-- Why a value makes no role: it has no members to look up, a member is missing, its context is
unknown, or what stands in the place of its entries yields none. -/
inductive RoleError
  | notObject (value : Json)
  | missingKey (key : String)
  | unknownContext (e : UnknownWord)
  | permissions (value : Json)
  deriving DecidableEq, Repr

namespace RoleError

def kind : RoleError → String
  | .notObject _ | .permissions _ => "TypeError"
  | .missingKey _ => "KeyError"
  | .unknownContext _ => "ValueError"

/-- What is raised with it. Texts and lists can be looked into, but not by a key. -/
def message : RoleError → String
  | .notObject (.str _) => "string indices must be integers, not 'str'"
  | .notObject (.arr _) => "list indices must be integers or slices, not str"
  | .notObject value => "'" ++ value.typeName ++ "' object is not subscriptable"
  | .missingKey key => key
  | .unknownContext e => e.message
  | .permissions value => "'" ++ value.typeName ++ "' object is not iterable"

def display (e : RoleError) : String :=
  e.kind ++ "(" ++ Text.quoted e.message ++ ")"

end RoleError

/-- Why fields make no role: they are not the fields of one, or a value is of no use. -/
inductive FieldsError
  | arguments
  | value (e : RoleError)
  deriving DecidableEq, Repr

namespace Role

/-- The fields of a role, in the order in which they are shown. -/
def fields : List String := ["id", "name", "context", "permissions", "description"]

/-- A role from the values of its fields. The context is looked at first. -/
def build (id name context permissions description : Json) : Except RoleError Role :=
  match readWord .contexts Context.ofText? context with
  | .error e => .error (.unknownContext e)
  | .ok context =>
    match permissions.elements? with
    | none => .error (.permissions permissions)
    | some permissions => .ok { id, name, context, permissions, description }

/-- The context that an object names, whatever its other members are. -/
def contextOf (data : Json) : Except RoleError Context :=
  match data with
  | .obj members =>
    match members.lookup "context" with
    | none => .error (.missingKey "context")
    | some context => (readWord .contexts Context.ofText? context).mapError .unknownContext
  | value => .error (.notObject value)

/-- The role of a plain object. The name is the identifier unless one is given, entries that count
as nothing are no entries, and other members are ignored. -/
def ofJson (data : Json) : Except RoleError Role :=
  match data with
  | .obj members =>
    match members.lookup "id" with
    | none => .error (.missingKey "id")
    | some id =>
      match members.lookup "context" with
      | none => .error (.missingKey "context")
      | some context =>
        let permissions := (members.lookup "permissions").getD .null
        build id ((members.lookup "name").getD id) context
          (if permissions.isVacant then .arr [] else permissions)
          ((members.lookup "description").getD .null)
  | value => .error (.notObject value)

/-- The role of an object that spells out its fields: identifier, name and context have to be
there, and no other member may be. -/
def ofFields (data : Json) : Except FieldsError Role :=
  match data with
  | .obj members =>
    if members.any fun (key, _) => !fields.contains key then .error .arguments
    else
      match members.lookup "id", members.lookup "name", members.lookup "context" with
      | some id, some name, some context =>
        (build id name context ((members.lookup "permissions").getD (.arr []))
          ((members.lookup "description").getD .null)).mapError .value
      | _, _, _ => .error .arguments
  | _ => .error .arguments

def toJson (r : Role) : Json :=
  .obj [("id", r.id), ("name", r.name), ("context", .str r.context.text),
    ("permissions", .arr r.permissions), ("description", r.description)]

def levels (r : Role) : Nat :=
  max (max r.id.levels r.name.levels) (max (Json.arr r.permissions).levels r.description.levels)

/-- The most levels that a role may have where it is shown on its own. -/
def maxLevels : Nat := 495

/-- The role as a plain object, unless it has more than `most` levels. -/
def written? (most : Nat) (r : Role) : Option Json :=
  if most < r.levels then none else some r.toJson

def text (r : Role) : String :=
  "Role(" ++ r.id.plain ++ ")"

def summary (r : Role) : String :=
  "Role(" ++ r.id.plain ++ ", context=" ++ r.context.text ++ ", permissions=" ++
    r.permissions.length.repr ++ ")"

end Role

/-- What a caller hands over as a role: one that is loaded, or a value to load one from. -/
inductive RoleSource
  | loaded (role : Role)
  | data (value : Json)
  deriving DecidableEq, Repr

def RoleSource.role? : RoleSource → Option Role
  | .loaded role => some role
  | .data value => (Role.ofJson value).toOption

/-- What a provider of roles gives: sources of roles, or some value. -/
inductive ProvidedRoles
  | list (sources : List RoleSource)
  | value (given : Json)
  deriving DecidableEq, Repr

/-- The sources that are given: a value that counts as nothing stands for none, and what yields no
values is an error. -/
def ProvidedRoles.sources? : ProvidedRoles → Option (List RoleSource)
  | .list sources => some sources
  | .value given =>
    if given.isVacant then some [] else given.elements?.map fun values => values.map .data

/-- The roles of the sources that can be loaded, in order. -/
def Role.load (sources : List RoleSource) : List Role :=
  sources.filterMap RoleSource.role?

end AccessControl
