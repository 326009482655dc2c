import AccessControl.Compile
import AccessControl.Query

/-!
# Authorizations

The authorization of one user for one request: the user's identifier, the roles that could be
loaded and their index. It answers the questions of guards and route code and reports the effective
permissions.
-/
namespace AccessControl

/-- What one user may do. -/
structure Authorization where
  userId : Json
  roles : List Role
  index : Index
  deriving DecidableEq, Repr

namespace Authorization

def build (userId : Json) (sources : List RoleSource) : Authorization :=
  let roles := Role.load sources
  { userId, roles, index := .compile (roles.map .loaded) }

def buildEvents (sources : List RoleSource) : List CompileEvent :=
  loadEvents sources ++ compileEvents (Role.load sources)

/-- Every value is a permission that is held. The first that is not decides: it is an error when it
is malformed and a refusal otherwise. -/
def holds (a : Authorization) (check : Check) : List Json → Except MalformedPermission Bool
  | [] => .ok true
  | value :: rest =>
    match a.index.query check value with
    | .error e => .error e
    | .ok false => .ok false
    | .ok true => a.holds check rest

/-- The contexts in which the scope of a value has a block. -/
def contextOf (a : Authorization) (value : Json) : Except MalformedPermission ContextMatch :=
  a.index.queryContext value

def permissions (a : Authorization) : List FlatPermission :=
  a.index.flatten

def permissionsIn (a : Authorization) (context : Context) : List FlatPermission :=
  a.permissions.filter fun p => p.context = context

/-- The introspection answer: identity, roles and effective permissions. -/
def toJson (a : Authorization) : Json :=
  .obj [("userId", a.userId), ("roles", .arr (a.roles.map Role.toJson)),
    ("permissions", .arr (a.permissions.map FlatPermission.toJson))]

/-- The introspection answer, unless a role has more than `most` levels. -/
def written? (most : Nat) (a : Authorization) : Option Json :=
  if a.roles.any (most < ·.levels) then none else some a.toJson

def text (a : Authorization) : String :=
  "RequestAuthorization(user=" ++ a.userId.display ++ ", roles=" ++ a.roles.length.repr ++ ")"

end Authorization

end AccessControl
