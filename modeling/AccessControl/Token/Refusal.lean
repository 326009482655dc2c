import AccessControl.Clock.Basic
import AccessControl.Failure
import AccessControl.Json.Document

/-!
# Refused tokens

Why an authorization header is refused. Every refusal is an authentication failure: an expired token
is one of its own kind, all else is an invalid token.
-/
namespace AccessControl

inductive TimeClaim
  | issuedAt
  | notBefore
  | expires
  deriving DecidableEq, Repr

def TimeClaim.key : TimeClaim → String
  | .issuedAt => "iat"
  | .notBefore => "nbf"
  | .expires => "exp"

def TimeClaim.title : TimeClaim → String
  | .issuedAt => "Issued At"
  | .notBefore => "Not Before"
  | .expires => "Expiration Time"

inductive TokenSegment
  | header
  | payload
  | signature
  deriving DecidableEq, Repr

def TokenSegment.title : TokenSegment → String
  | .header => "header"
  | .payload => "payload"
  | .signature => "crypto"

inductive TokenFault
  | tooFewSegments
  | undecodable (s : TokenSegment)
  | unreadable (s : TokenSegment) (e : DocumentError)
  | notObject (s : TokenSegment)
  | payloadPresent
  | keyIdNotText
  | criticalNotList
  | criticalNotText
  | unknownCritical (name : String)
  | absentCritical (name : String)
  | encodingNotCritical
  | payloadDetached
  | noAlgorithm
  | otherAlgorithm
  | unknownAlgorithm
  | wrongSignature
  | notWhole (claim : TimeClaim)
  | tooEarly (claim : TimeClaim)
  | noIssuer
  | issuerNotText
  | otherIssuer
  | noAudience
  | audienceFormat
  | otherAudience
  | subjectNotText
  | identifierNotText
  deriving DecidableEq, Repr

def TokenFault.text : TokenFault → String
  | .tooFewSegments => "Not enough segments"
  | .undecodable s => "Invalid " ++ s.title ++ " padding"
  | .unreadable s e => "Invalid " ++ s.title ++ " string: " ++ e.message
  | .notObject s => "Invalid " ++ s.title ++ " string: must be a json object"
  | .payloadPresent => "Payload segment must be empty when 'b64' is false."
  | .keyIdNotText => "Key ID header parameter must be a string"
  | .criticalNotList => "Invalid 'crit' header: must be a non-empty list"
  | .criticalNotText => "Invalid 'crit' header: values must be strings"
  | .unknownCritical name => "Unsupported critical extension: " ++ name
  | .absentCritical name => "Critical extension '" ++ name ++ "' is missing from headers"
  | .encodingNotCritical =>
    "The 'b64' header parameter requires 'b64' to be listed in 'crit'."
  | .payloadDetached =>
    "It is required that you pass in a value for the \"detached_payload\" argument to decode a " ++
      "message having the b64 header set to false."
  | .noAlgorithm => "Algorithm not specified"
  | .otherAlgorithm => "The specified alg value is not allowed"
  | .unknownAlgorithm => "Algorithm not supported"
  | .wrongSignature => "Signature verification failed"
  | .notWhole claim => claim.title ++ " claim (" ++ claim.key ++ ") must be an integer."
  | .tooEarly claim => "The token is not yet valid (" ++ claim.key ++ ")"
  | .noIssuer => "Token is missing the \"iss\" claim"
  | .issuerNotText => "Payload Issuer (iss) must be a string"
  | .otherIssuer => "Invalid issuer"
  | .noAudience => "Token is missing the \"aud\" claim"
  | .audienceFormat => "Invalid claim format in token"
  | .otherAudience => "Audience doesn't match"
  | .subjectNotText => "Subject must be a string"
  | .identifierNotText => "JWT ID must be a string"

inductive Refusal
  | noHeader
  | noBearer
  | expired
  | invalid (fault : TokenFault)
  | noUser
  deriving DecidableEq, Repr

def Refusal.failure : Refusal → Failure
  | .noHeader => .plain .invalidToken "Missing authorization header"
  | .noBearer => .plain .invalidToken "Invalid authorization type"
  | .expired => .plain .tokenExpired "Token expired"
  | .invalid fault => .plain .invalidToken ("Invalid token: " ++ fault.text)
  | .noUser => .plain .invalidToken "Token missing 'userId' claim"

/-- Why a header can be neither accepted nor refused: the clock is out of order, the installation's
secret is no key, or the token or the secret has no octets. -/
inductive ValidationFault
  | clock (e : ClockError)
  | unusableKey
  | unencodable
  deriving DecidableEq, Repr

inductive ValidationError
  | refused (r : Refusal)
  | broken (f : ValidationFault)
  deriving DecidableEq, Repr

end AccessControl
