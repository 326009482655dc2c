import AccessControl.Gateway.Exchange
import AccessControl.Request.Basic
import AccessControl.Request.PathPattern

/-!
# Routes

A route is an endpoint with a path, a method and guards in front of it. The endpoint runs once every
guard has let the request's authorization pass. A guard needs an authorization to be there, and so
does an endpoint that is about the user.
-/
namespace AccessControl

/-- The code behind a route: it looks at nothing, it is about the user, or it is the built-in
introspection. -/
inductive Endpoint
  | plain (run : Except Raised Json)
  | personal (run : Authorization → Except Raised Json)
  | introspection

structure Route where
  method : String
  path : String
  guards : List Guard
  endpoint : Endpoint

def missingAuthorization : Failure :=
  .plain .configuration
    "No authorization on request, is AuthZMiddleware installed for this route?"

/-- The guards let an authorization pass one after the other, or the first that does not says why,
with what is recorded about it. -/
def Guard.runAll (a : Authorization) : List Guard → Except (Failure × List ExchangeEvent) Unit
  | [] => .ok ()
  | g :: rest =>
    match g.run a with
    | .ok () => runAll a rest
    | .error f => .error (f, if f = g.refusal then [.lacking a.userId g] else [])

/-- The most levels that a role may have in the introspection answer, where there is less room than
where a role is shown on its own. -/
def maxIntrospectionLevels : Nat := 482

/-- How the introspection of an authorization ends. The answer must not be too deep, it has to fit
its declared shape, which roles may fail to do, and every text in it has to have octets; numbers
that cannot be written become null. -/
def introspection (a : Authorization) : Outcome :=
  match a.written? maxIntrospectionLevels with
  | none => .crashed .deepRoles
  | some body =>
    match IamReport.ofJson body with
    | .error es => .crashed (.unreportable es)
    | .ok report =>
      match report.written with
      | .error e => .crashed (.unwrittenReport e)
      | .ok body =>
        if body.isEncodable then .answered ⟨200, body.finitePart⟩
        else .crashed (.unwrittenReport .unencodable)

def introspect (a : Authorization) : Exchange :=
  { outcome := introspection a, events := [.introspected a.userId], endpointRan := true }

namespace Route

def fault? (route : Route) : Option PathFault :=
  PathPattern.fault? route.path

def isAt (route : Route) (r : Request) : Bool :=
  PathPattern.fits route.path r.path

/-- The route serves a request: at its path and with its method. A route's method may be written in
any letter case, a request's has to be in capitals. -/
def serves (route : Route) (r : Request) : Bool :=
  route.isAt r && Text.upper route.method = r.method

/-- A request with an authorization goes through the guards to the endpoint. -/
def runFor (route : Route) (path : String) (a : Authorization) : Exchange :=
  match Guard.runAll a route.guards with
  | .error (f, events) => (Exchange.failed path f).after events
  | .ok () =>
    match route.endpoint with
    | .plain run => .ofRun path run
    | .personal run => .ofRun path (run a)
    | .introspection => introspect a

/-- A request without an authorization reaches an endpoint that is neither guarded nor about the
user. -/
def runOpen (route : Route) (path : String) : Exchange :=
  match route.guards, route.endpoint with
  | [], .plain run => .ofRun path run
  | _, _ => .failed path missingAuthorization

def run (route : Route) (path : String) : Option Authorization → Exchange
  | some a => route.runFor path a
  | none => route.runOpen path

def absence (status : Nat) (detail : String) : Exchange :=
  { outcome := .answered ⟨status, .obj [("detail", .str detail)]⟩, events := [],
    endpointRan := false }

/-- A request goes to the first route that serves it. A path that is known with other methods only
is told apart from one that is not known. -/
def dispatch (routes : List Route) (r : Request) (a? : Option Authorization) : Exchange :=
  match routes.find? (·.serves r) with
  | some route => route.run r.addressPath a?
  | none =>
    if routes.any (·.isAt r) then absence 405 "Method Not Allowed" else absence 404 "Not Found"

end Route

end AccessControl
