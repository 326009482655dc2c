import AccessControl.Clock.Basic
import AccessControl.Json.Depth
import AccessControl.Json.Digits
import AccessControl.Json.Writer
import AccessControl.Settings.Basic
import AccessControl.Text.Base64Url
import AccessControl.Text.Numeral
import AccessControl.Token.Algorithm
import AccessControl.Token.Secret

/-!
# Issuing tokens

A token carries a user's identifier from one request to the next. It has three segments: a header
naming the algorithm, the claims, and the keyed hash of the two.
-/
namespace AccessControl

def tokenIssuer : String := "authz Server"

def tokenAudience : String := "authz Client"

def tokenSubject : String := "authz User"

/-- The last second that a token may expire in: the end of the year 9999. -/
def lastSecond : Int := 253402300799

inductive IssueError
  | clock (e : ClockError)
  | expiryTooLate
  | numberTooLong
  | tooDeep
  | unknownAlgorithm
  | unusableKey
  | unencodableKey
  deriving DecidableEq, Repr

def SecretFault.issueError : SecretFault → IssueError
  | .keyFile => .unusableKey
  | .unencodable => .unencodableKey

structure IssuedToken where
  token : String
  lifetime : Int
  deriving DecidableEq, Repr

namespace Token

def header (algorithm : Algorithm) : Json :=
  .obj [("alg", .str algorithm.text), ("typ", .str "JWT")]

def claims (userId : Json) (issued expires : Int) : Json :=
  .obj [("userId", userId), ("iat", .int issued), ("exp", .int expires),
    ("iss", .str tokenIssuer), ("aud", .str tokenAudience), ("sub", .str tokenSubject)]

def segment (value : Json) : List Char :=
  Base64Url.encode (Utf8.encode (value.write .compact))

def signature (algorithm : Algorithm) (secret : String) (input : List Char) : Bytes :=
  algorithm.hmac (Utf8.encode secret.toList) (Utf8.encode input)

def encode (algorithm : Algorithm) (secret : String) (claims : Json) : List Char :=
  let input := segment (header algorithm) ++ '.' :: segment claims
  input ++ '.' :: Base64Url.encode (signature algorithm secret input)

/-- A token for a user, issued at a second. The claims are written before the key is looked at. -/
def issueAt (s : Settings) (userId : Json) (now : Int) : Except IssueError IssuedToken :=
  let expires := now + s.lifetime
  if lastSecond < expires then .error .expiryTooLate
  else if Text.maxDigits < (claims userId now expires).digits then .error .numberTooLong
  else if Json.maxDepth < (claims userId now expires).depth then .error .tooDeep
  else if s.algorithm = unsignedAlgorithm then .error .unusableKey
  else
    match Algorithm.ofText? s.algorithm, checkSecret s.secret with
    | none, _ => .error .unknownAlgorithm
    | some _, .error f => .error f.issueError
    | some algorithm, .ok () =>
      .ok ⟨String.ofList (encode algorithm s.secret (claims userId now expires)), s.lifetime⟩

def issue (s : Settings) (userId : Json) (clock : Clock) : Except IssueError IssuedToken :=
  match clock with
  | .error e => .error (.clock e)
  | .ok now => issueAt s userId now.seconds

end Token

end AccessControl
