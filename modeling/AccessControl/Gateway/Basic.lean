import AccessControl.Gateway.Route
import AccessControl.Token.Validate

/-!
# The gateway

The gateway stands in front of the routes. A request under an exempt path goes on without an
authorization, the authentication request is answered with a token, and any other request has to
carry one; its user's roles then become the authorization that the routes see.
-/
namespace AccessControl

/-- A gateway: its settings, who identifies a user, who knows a user's roles, and the routes
behind it. An identification that gives null makes out no user. -/
structure Gateway where
  settings : Settings
  identification : Request → Except Raised Json
  rolesOf : Json → Except Raised ProvidedRoles
  routes : List Route

/-- A provider may give nothing but values. -/
instance : Coe (Json → Except Raised Json) (Json → Except Raised ProvidedRoles) :=
  ⟨fun provider userId => (provider userId).map .value⟩

inductive Admission
  | exempt
  | authentication
  | user (userId : Json)
  | refused (r : Refusal)
  | broken (f : ValidationFault)
  deriving DecidableEq, Repr

/-- What the gateway decides about a request: it goes on to the routes, or it ends here. -/
inductive Verdict
  | forward (a? : Option Authorization)
  | finish (outcome : Outcome)
  deriving DecidableEq, Repr

structure Judgement where
  verdict : Verdict
  events : List ExchangeEvent
  deriving DecidableEq, Repr

def Settings.authenticationKind (s : Settings) : String :=
  requestKind s.authenticationMethod.text s.authenticationPath

def invalidUserMessage : String := "Invalid user"

/-- What the client is told about refused credentials. -/
def refusalBody (r : Refusal) : Json :=
  errorBody (.str ("Authentication error: " ++ r.failure.text))

/-- How deep the parts of tokens may be nested that a gateway reads. There is less room inside a
gateway than where a token is validated on its own. -/
def admissionDepth : Nat := 970

/-- What a request is, by a clock: exempt paths are looked at first, then the authentication
request, then the credentials. -/
def Request.admission (r : Request) (s : Settings) (clock : Clock) : Admission :=
  if r.isUnder s.exemptPaths then .exempt
  else if r.kind = s.authenticationKind then .authentication
  else
    match Token.validate admissionDepth s clock r.credentials? with
    | .ok userId => .user userId
    | .error (.refused refusal) => .refused refusal
    | .error (.broken fault) => .broken fault

namespace Gateway

def identify (g : Gateway) (r : Request) : Except Failure Json :=
  match g.identification r with
  | .error e => .error (.plain .invalidUser (invalidUserMessage ++ ": " ++ e.text))
  | .ok .null => .error (.plain .invalidUser invalidUserMessage)
  | .ok userId => .ok userId

/-- The authentication request is answered with a token for its user. -/
def authenticate (g : Gateway) (clock : Clock) (r : Request) : Judgement :=
  match g.identify r with
  | .error f => ⟨.finish f.outcome, [.unidentified f]⟩
  | .ok userId =>
    match Token.issue g.settings userId clock with
    | .error e => ⟨.finish (.crashed (.notIssued e)), []⟩
    | .ok issued =>
      ⟨.finish (.answered ⟨200, TokenReport.toJson ⟨issued.token, issued.lifetime⟩⟩),
        [.tokenIssued userId issued.lifetime, .signedIn userId]⟩

/-- A user's request goes on with the authorization of the user's roles. -/
def authorize (g : Gateway) (path : String) (userId : Json) : Judgement :=
  match g.rolesOf userId with
  | .error e => ⟨.finish (.crashed (.raised e)), []⟩
  | .ok given =>
    match given.sources? with
    | none => ⟨.finish (.crashed (.unusableRoles given)), []⟩
    | some sources =>
      ⟨.forward (some (Authorization.build userId sources)),
        (Authorization.buildEvents sources).map .compiled ++
          [.authenticated userId sources.length path]⟩

def judge (g : Gateway) (clock : Clock) (r : Request) : Judgement :=
  match r.admission g.settings clock with
  | .exempt => ⟨.forward none, []⟩
  | .authentication => g.authenticate clock r
  | .user userId => g.authorize r.addressPath userId
  | .refused refusal =>
    ⟨.finish (.ofBody 401 (refusalBody refusal)),
      [.refused r.method r.addressPath refusal.failure]⟩
  | .broken fault => ⟨.finish (.crashed (.notValidated fault)), []⟩

def introspectionRoute (s : Settings) : Route :=
  { method := s.iamMethod.text, path := s.iamPath, guards := [], endpoint := .introspection }

/-- The routes behind the gateway, the introspection endpoint first where it is enabled. -/
def allRoutes (g : Gateway) : List Route :=
  if g.settings.iamEnabled then introspectionRoute g.settings :: g.routes else g.routes

def exchange (g : Gateway) (clock : Clock) (r : Request) : Exchange :=
  let j := g.judge clock r
  match j.verdict with
  | .forward a? => (Route.dispatch g.allRoutes r a?).after j.events
  | .finish outcome => { outcome, events := j.events, endpointRan := false }

end Gateway

end AccessControl
