import AccessControl.Authorization
import AccessControl.Failure

/-!
# Guards

A guard stands before a route and demands a list of permissions. It is refused when it is defined
if one of them is malformed, so that a mistake shows at once and not as a denial.
-/
namespace AccessControl

/-- The kind of a question as refusals name it. -/
def Check.label (check : Check) : String :=
  let reach := match check.reach with
    | .anywhere => ""
    | .within context => context.text ++ " "
  reach ++ match check.demand with
    | .resource => "permissions"
    | .action => "actions"

/-- A demand for permissions, all of which could be read. -/
structure Guard where
  check : Check
  required : List Json
  deriving DecidableEq, Repr

namespace Guard

/-- The guard that demands some values; the first that is no permission is the error. -/
def make (check : Check) (required : List Json) : Except MalformedPermission Guard :=
  match required.mapM Permission.read with
  | .error e => .error e
  | .ok _ => .ok { check, required }

def refusalMessage : String :=
  "You don't have permissions to access this resource."

def refusal (g : Guard) : Failure :=
  .make .permissionDenied (.str refusalMessage) .null
    (.obj [("required", .arr g.required), ("kind", .str g.check.label)])

def run (g : Guard) (a : Authorization) : Except Failure Unit :=
  match a.holds g.check g.required with
  | .error e => .error (.ofMalformed e)
  | .ok true => .ok ()
  | .ok false => .error g.refusal

end Guard

end AccessControl
