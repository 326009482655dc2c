import AccessControl.Json.Document
import AccessControl.Text.Numeral
import AccessControl.Token.Header
import AccessControl.Token.Issue
import AccessControl.Token.Refusal

/-!
# Validating tokens

The user that an authorization header names. The token is taken apart, its signature checked
against the installation's secret, and its claims against the clock and the names that issued tokens
carry. The first fault decides.
-/
namespace AccessControl

def SecretFault.validationFault : SecretFault → ValidationFault
  | .keyFile => .unusableKey
  | .unencodable => .unencodable

namespace Token

def scheme : String := "Bearer"

/-- The token of an authorization header: what follows the scheme and one space. -/
def ofHeader (header : Option String) : Except Refusal (List Char) :=
  match (header.getD "").toList with
  | [] => .error .noHeader
  | cs =>
    if cs.takeWhile (· ≠ ' ') = scheme.toList then
      match (cs.dropWhile (· ≠ ' ')).drop 1 with
      | [] => .error .noBearer
      | token => .ok token
    else .error .noBearer

def cutFirst (cs : List Char) : Option (List Char × List Char) :=
  match cs.dropWhile (· ≠ '.') with
  | [] => none
  | _ :: rest => some (cs.takeWhile (· ≠ '.'), rest)

def cutLast (cs : List Char) : Option (List Char × List Char) :=
  (cutFirst cs.reverse).map fun (behind, before) => (before.reverse, behind.reverse)

/-- The segments of a token as they are written: the signed text, its two segments and the
signature. -/
structure Written where
  input : List Char
  header : List Char
  payload : List Char
  signature : List Char
  deriving DecidableEq, Repr

/-- A token cut at its last point, and what is before that at its first. -/
def cut (token : List Char) : Except TokenFault Written := do
  let some (input, signature) := cutLast token | throw .tooFewSegments
  let some (header, payload) := cutFirst input | throw .tooFewSegments
  return { input, header, payload, signature }

def bytesOf (s : TokenSegment) (written : List Char) : Except TokenFault Bytes :=
  match Base64Url.decode written with
  | some bytes => .ok bytes
  | none => .error (.undecodable s)

def objectOf (room : Nat) (s : TokenSegment) (bytes : Bytes) :
    Except TokenFault (List (String × Json)) :=
  match Json.ofDocument room bytes with
  | .error e => .error (.unreadable s e)
  | .ok (.obj members) => .ok members
  | .ok _ => .error (.notObject s)

structure Parts where
  input : List Char
  header : List (String × Json)
  payload : Bytes
  signature : Bytes
  deriving DecidableEq, Repr

/-- The parts of a token: the header is read in full, then the other segments are decoded. The
payload of a token that sends it apart is empty. -/
def partsOf (room : Nat) (token : List Char) : Except TokenFault Parts := do
  let written ← cut token
  let header ← objectOf room .header (← bytesOf .header written.header)
  if isUnencoded header && !written.payload.isEmpty then throw .payloadPresent
  let payload ← bytesOf .payload written.payload
  let signature ← bytesOf .signature written.signature
  return { input := written.input, header, payload, signature }

def checkAlgorithm (s : Settings) (header : List (String × Json)) : Except TokenFault Unit :=
  match header.lookup "alg" with
  | none => .error .noAlgorithm
  | some named =>
    if named = .str s.algorithm ∧ s.algorithm ≠ "" then .ok () else .error .otherAlgorithm

def checkSignature (s : Settings) (p : Parts) : Except ValidationError Unit :=
  if s.algorithm = unsignedAlgorithm then .error (.broken .unusableKey)
  else
    match Algorithm.ofText? s.algorithm, checkSecret s.secret with
    | none, _ => .error (.refused (.invalid .unknownAlgorithm))
    | some _, .error f => .error (.broken f.validationFault)
    | some algorithm, .ok () =>
      if p.signature = signature algorithm s.secret p.input then .ok ()
      else .error (.refused (.invalid .wrongSignature))

/-- The whole number of a time claim: numbers toward zero, truth values as one and zero, and
numerals. -/
def seconds? : Json → Option Int
  | .int value => some value
  | .float value => value.truncate?
  | .bool value => some (if value then 1 else 0)
  | .str text => Text.integer? text
  | _ => none

/-- A time claim, where it is made, as seconds. -/
def timeOf (claim : TimeClaim) (claims : List (String × Json)) : Except Refusal (Option Int) :=
  match claims.lookup claim.key with
  | none => .ok none
  | some value =>
    match seconds? value with
    | some n => .ok (some n)
    | none => .error (.invalid (.notWhole claim))

/-- The token is valid at a point in time: issued and started by then, and not expired. -/
def checkTimes (now : Instant) (claims : List (String × Json)) : Except Refusal Unit := do
  if (← timeOf .issuedAt claims).any now.isBefore then throw (.invalid (.tooEarly .issuedAt))
  if (← timeOf .notBefore claims).any now.isBefore then throw (.invalid (.tooEarly .notBefore))
  if (← timeOf .expires claims).any (!now.isBefore ·) then throw .expired

def checkIssuer (claims : List (String × Json)) : Except TokenFault Unit :=
  match claims.lookup "iss" with
  | none => .error .noIssuer
  | some (.str issuer) => if issuer = tokenIssuer then .ok () else .error .otherIssuer
  | some _ => .error .issuerNotText

/-- The token names the audience of the library's tokens, alone or in a list of texts. -/
def checkAudience (claims : List (String × Json)) : Except TokenFault Unit :=
  let audience := (claims.lookup "aud").getD .null
  if audience.isVacant then .error .noAudience
  else
    match audience with
    | .str name => if name = tokenAudience then .ok () else .error .otherAudience
    | .arr names =>
      if names.any fun | .str _ => false | _ => true then .error .audienceFormat
      else if names.contains (.str tokenAudience) then .ok ()
      else .error .otherAudience
    | _ => .error .audienceFormat

/-- A claim, where it is made, is a text. -/
def checkText (key : String) (fault : TokenFault) (claims : List (String × Json)) :
    Except TokenFault Unit :=
  match claims.lookup key with
  | none | some (.str _) => .ok ()
  | some _ => .error fault

def checkClaims (now : Instant) (claims : List (String × Json)) : Except Refusal Unit := do
  checkTimes now claims
  (do
    checkIssuer claims
    checkAudience claims
    checkText "sub" .subjectNotText claims
    checkText "jti" .identifierNotText claims : Except TokenFault Unit).mapError .invalid

def verified (room : Nat) (s : Settings) (token : List Char) :
    Except ValidationError (List (String × Json)) := do
  if !Text.isEncodable (String.ofList token) then throw (.broken .unencodable)
  let parts ← (partsOf room token).mapError fun fault => .refused (.invalid fault)
  (checkHeader parts.header).mapError fun fault => .refused (.invalid fault)
  (checkAlgorithm s parts.header).mapError fun fault => .refused (.invalid fault)
  checkSignature s parts
  (objectOf room .payload parts.payload).mapError fun fault => .refused (.invalid fault)

/-- The user that an authorization header names by a clock. The parts of its token are nested up to
`room` deep. -/
def validate (room : Nat) (s : Settings) (clock : Clock) (header : Option String) :
    Except ValidationError Json := do
  let token ← (ofHeader header).mapError .refused
  let claims ← verified room s token
  let now ← clock.mapError fun e => .broken (.clock e)
  (checkClaims now claims).mapError .refused
  match claims.lookup "userId" with
  | some userId => return userId
  | none => throw (.refused .noUser)

end Token

end AccessControl
