import AccessControl.Json.Levels
import AccessControl.Permission.Basic
import AccessControl.Report.Object

/-!
# Reports

The bodies of the built-in endpoints' answers as typed values: the token answer and the
introspection answer with its roles and effective permissions. Each is read from JSON with every
fault reported, and written back. A user identifier may be any value, but one of very many levels is
not written.
-/
namespace AccessControl

structure TokenReport where
  token : String
  expiresIn : Int
  deriving DecidableEq, Repr

structure RoleReport where
  id : String
  name : String
  context : Context
  permissions : List String
  description : Option String
  deriving DecidableEq, Repr

/-- Which concrete actions an effective permission serves. -/
structure ActionReport where
  read : Bool
  write : Bool
  deriving DecidableEq, Repr

/-- The resources of an effective permission: a special name or a list of names. -/
inductive ResourcesReport
  | name (text : String)
  | names (texts : List String)
  deriving DecidableEq, Repr

structure PermissionReport where
  context : Context
  scope : String
  action : ActionReport
  resources : ResourcesReport
  deriving DecidableEq, Repr

structure IamReport where
  userId : Json
  roles : List RoleReport
  permissions : List PermissionReport
  deriving DecidableEq, Repr

inductive ReportError
  | tooDeep
  | unencodable
  deriving DecidableEq, Repr

def ReportError.message : ReportError → String
  | .tooDeep => "Maximum serialization depth exceeded"
  | .unencodable => "Some text has no octets"

namespace TokenReport

def ofJson : Json → Checked TokenReport :=
  Field.object fun members =>
    (Checked.both (Field.required "token" Field.text members)
      (Field.aliased "expiresIn" "expires_in" Field.whole members)).map
      fun (token, expiresIn) => { token, expiresIn }

def toJson (r : TokenReport) : Json :=
  .obj [("token", .str r.token), ("expiresIn", .int r.expiresIn)]

end TokenReport

namespace RoleReport

def ofJson : Json → Checked RoleReport :=
  Field.object fun members =>
    (Checked.both (Field.required "id" Field.text members)
      (Checked.both (Field.required "name" Field.text members)
      (Checked.both (Field.required "context" (Field.word Context.ofText?) members)
      (Checked.both (Field.optional "permissions" Field.texts [] members)
        (Field.optional "description" (Field.nullable Field.text) none members))))).map
      fun (id, name, context, permissions, description) =>
        { id, name, context, permissions, description }

def toJson (r : RoleReport) : Json :=
  .obj [("id", .str r.id), ("name", .str r.name), ("context", .str r.context.text),
    ("permissions", .ofTexts r.permissions),
    ("description", match r.description with | none => .null | some text => .str text)]

end RoleReport

namespace ActionReport

def ofJson : Json → Checked ActionReport :=
  Field.object fun members =>
    (Checked.both (Field.required "read" Field.truth members)
      (Field.required "write" Field.truth members)).map fun (read, write) => { read, write }

def toJson (r : ActionReport) : Json :=
  .obj [("read", .bool r.read), ("write", .bool r.write)]

end ActionReport

namespace ResourcesReport

/-- The report of a text or a list of texts; the faults of both readings are reported. -/
def ofJson (value : Json) : Checked ResourcesReport :=
  match Field.text value, Field.texts value with
  | .ok text, _ => .ok (.name text)
  | _, .ok texts => .ok (.names texts)
  | one, many =>
    .error ((one.under (.member "str")).errors ++ (many.under (.member "list[str]")).errors)

def toJson : ResourcesReport → Json
  | .name text => .str text
  | .names texts => .ofTexts texts

end ResourcesReport

namespace PermissionReport

def ofJson : Json → Checked PermissionReport :=
  Field.object fun members =>
    (Checked.both (Field.required "context" (Field.word Context.ofText?) members)
      (Checked.both (Field.required "scope" Field.text members)
      (Checked.both (Field.required "action" ActionReport.ofJson members)
        (Field.required "resources" ResourcesReport.ofJson members)))).map
      fun (context, scope, action, resources) => { context, scope, action, resources }

def toJson (r : PermissionReport) : Json :=
  .obj [("context", .str r.context.text), ("scope", .str r.scope), ("action", r.action.toJson),
    ("resources", r.resources.toJson)]

end PermissionReport

namespace IamReport

def ofJson : Json → Checked IamReport :=
  Field.object fun members =>
    (Checked.both (Field.aliased "userId" "user_id" .ok members)
      (Checked.both (Field.required "roles" (Field.list RoleReport.ofJson) members)
        (Field.required "permissions" (Field.list PermissionReport.ofJson) members))).map
      fun (userId, roles, permissions) => { userId, roles, permissions }

def toJson (r : IamReport) : Json :=
  .obj [("userId", r.userId), ("roles", .arr (r.roles.map RoleReport.toJson)),
    ("permissions", .arr (r.permissions.map PermissionReport.toJson))]

/-- The most levels that the user identifier of a report may have. -/
def maxLevels : Nat := 255

/-- The report as an object, if its user identifier is not too deep for one. -/
def written (r : IamReport) : Except ReportError Json :=
  if maxLevels < r.userId.levels then .error .tooDeep else .ok r.toJson

end IamReport

end AccessControl
