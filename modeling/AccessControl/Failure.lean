import AccessControl.Permission.Reader

/-!
# Failures

The failures that the library reports to its callers, by kind. Every kind has a name, a place in the
hierarchy and a status, and every failure a message, a code, its kind's name unless another is
given, and details.
-/
namespace AccessControl

inductive FailureKind
  | general
  | configuration
  | malformedPermission
  | authentication
  | invalidToken
  | tokenExpired
  | invalidUser
  | authorization
  | permissionDenied
  deriving DecidableEq, Repr

namespace FailureKind

/-- The name of a kind, which is also its default code. -/
def name : FailureKind → String
  | .general => "AuthZError"
  | .configuration => "ConfigurationError"
  | .malformedPermission => "InvalidPermissionStringError"
  | .authentication => "AuthenticationError"
  | .invalidToken => "InvalidTokenError"
  | .tokenExpired => "TokenExpiredError"
  | .invalidUser => "InvalidUserError"
  | .authorization => "AuthorizationError"
  | .permissionDenied => "PermissionDeniedError"

def all : List FailureKind :=
  [.general, .configuration, .malformedPermission, .authentication, .invalidToken, .tokenExpired,
    .invalidUser, .authorization, .permissionDenied]

def ofName? (name : String) : Option FailureKind :=
  all.find? fun kind => kind.name = name

/-- The kind is about who the caller is. -/
def isAuthentication : FailureKind → Bool
  | .authentication | .invalidToken | .tokenExpired | .invalidUser => true
  | _ => false

/-- The kind is about what the caller may do. -/
def isAuthorization : FailureKind → Bool
  | .authorization | .permissionDenied => true
  | _ => false

def isAboutValue : FailureKind → Bool
  | .malformedPermission => true
  | _ => false

def status (kind : FailureKind) : Nat :=
  if kind.isAuthentication then 401
  else if kind.isAuthorization then 403
  else if kind.isAboutValue then 400
  else 500

end FailureKind

/-- A failure with its message, code and details, each of which may be any value. -/
structure Failure where
  kind : FailureKind
  message : Json
  code : Json
  details : Json
  deriving DecidableEq, Repr

def errorBody (message : Json) : Json :=
  .obj [("error", message)]

namespace Failure

/-- A failure; a code that counts as nothing stands for the kind's name, and details that do for an
empty object. -/
def make (kind : FailureKind) (message code details : Json) : Failure :=
  { kind, message
    code := if code.isVacant then .str kind.name else code
    details := if details.isVacant then .obj [] else details }

/-- A failure of a kind that carries nothing but a message. -/
def plain (kind : FailureKind) (message : String) : Failure :=
  make kind (.str message) .null .null

def malformed (permission reason : Json) : Failure :=
  make .malformedPermission (.str (malformedMessage permission reason.plain)) .null
    (.obj [("permission", permission), ("reason", reason)])

def ofMalformed (e : MalformedPermission) : Failure :=
  malformed e.permission (.str e.reason.text)

def text (f : Failure) : String := f.message.plain

def status (f : Failure) : Nat := f.kind.status

def body (f : Failure) : Json :=
  .obj [("error", f.message), ("code", f.code)]

end Failure

end AccessControl
