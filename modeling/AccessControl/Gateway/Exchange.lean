import AccessControl.Compile
import AccessControl.Guard
import AccessControl.Json.Encodable
import AccessControl.Json.Finite
import AccessControl.Json.Outward
import AccessControl.Report.Basic
import AccessControl.Token.Refusal
import AccessControl.Token.Issue

/-!
# Exchanges

An exchange is what becomes of one request: how it ends, what is recorded on the way, and whether
the code behind a route ran. It ends with an answer, or with an exception that nobody turned into
one and that reaches the server.
-/
namespace AccessControl

/-- What code outside the library raises: a failure of the library's kinds, or an exception of its
own with a name and a text. -/
inductive Raised
  | failure (f : Failure)
  | foreign (name text : String)
  deriving DecidableEq, Repr

namespace Raised

def name : Raised → String
  | .failure f => f.kind.name
  | .foreign name _ => name

def text : Raised → String
  | .failure f => f.text
  | .foreign _ text => text

end Raised

/-- What reaches the server instead of an answer. -/
inductive Crash
  | raised (e : Raised)
  | unusableRoles (given : ProvidedRoles)
  | notIssued (e : IssueError)
  | notValidated (f : ValidationFault)
  | deepRoles
  | unreportable (es : List FieldError)
  | unwrittenReport (e : ReportError)
  | unwritable (body : Json)
  | unencodable (body : Json)
  deriving DecidableEq, Repr

structure Response where
  status : Nat
  body : Json
  deriving DecidableEq, Repr

inductive Outcome
  | answered (r : Response)
  | crashed (c : Crash)
  deriving DecidableEq, Repr

namespace Outcome

/-- What the client sees in the end: the answer, or the server's own when there is none. -/
def response : Outcome → Response
  | .answered r => r
  | .crashed _ => ⟨500, .str "Internal Server Error"⟩

/-- The answer with a body, which is written in strict JSON and has to have octets. -/
def ofBody (status : Nat) (body : Json) : Outcome :=
  if !body.isFinite then .crashed (.unwritable body)
  else if !body.isEncodable then .crashed (.unencodable body)
  else .answered ⟨status, body⟩

end Outcome

def Failure.outcome (f : Failure) : Outcome :=
  .ofBody f.status f.body

/-- What is worth a log record during an exchange. -/
inductive ExchangeEvent
  | compiled (e : CompileEvent)
  | tokenIssued (userId : Json) (lifetime : Int)
  | signedIn (userId : Json)
  | unidentified (f : Failure)
  | refused (method path : String) (f : Failure)
  | authenticated (userId : Json) (roles : Nat) (path : String)
  | lacking (userId : Json) (g : Guard)
  | introspected (userId : Json)
  | failed (path : String) (f : Failure)
  deriving DecidableEq, Repr

/-- The level at which a failure is recorded: an error when the answer puts it on the server. -/
def Failure.level (f : Failure) : LogLevel :=
  if 500 ≤ f.status then .error else .warning

def ExchangeEvent.record : ExchangeEvent → LogRecord
  | .compiled e => e.record
  | .tokenIssued userId lifetime =>
    ⟨.debug, "Issued token for user " ++ userId.display ++ ", expires in " ++ lifetime.repr ++ "s"⟩
  | .signedIn userId => ⟨.info, "Issued token for user_id=" ++ userId.display⟩
  | .unidentified f => ⟨.warning, "User identification failed: " ++ f.text⟩
  | .refused method path f =>
    ⟨.warning, "Authentication failed for " ++ method ++ " " ++ path ++ ": " ++ f.text⟩
  | .authenticated userId roles path =>
    ⟨.info, "User authenticated: user_id=" ++ userId.display ++ ", roles=" ++ roles.repr ++
      ", path=" ++ path⟩
  | .lacking userId g =>
    ⟨.warning, "User " ++ userId.display ++ " lacks " ++ g.check.label ++ ": " ++
      (Json.arr g.required).display⟩
  | .introspected userId => ⟨.debug, "IAM requested by " ++ userId.display⟩
  | .failed path f => ⟨f.level, "Authz error on " ++ path ++ ": " ++ f.text⟩

structure Exchange where
  outcome : Outcome
  events : List ExchangeEvent
  endpointRan : Bool
  deriving DecidableEq, Repr

namespace Exchange

/-- The exchange with earlier events in front of its own. -/
def after (events : List ExchangeEvent) (x : Exchange) : Exchange :=
  { x with events := events ++ x.events }

/-- A failure that is answered before the code behind the route runs. -/
def failed (path : String) (f : Failure) : Exchange :=
  { outcome := f.outcome, events := [.failed path f], endpointRan := false }

/-- The code behind the route ran: its value as it is shown is the body of the answer, where it can
be written, a failure is answered as such, and an exception of its own reaches the server. -/
def ofRun (path : String) : Except Raised Json → Exchange
  | .ok value => { outcome := .ofBody 200 value.outward, events := [], endpointRan := true }
  | .error (.failure f) => { outcome := f.outcome, events := [.failed path f], endpointRan := true }
  | .error (.foreign name text) =>
    { outcome := .crashed (.raised (.foreign name text)), events := [], endpointRan := true }

end Exchange

end AccessControl
