import AccessControl.Proofs.Gateway.Mediation
import AccessControl.Proofs.Token.Wording

/-!
# Requests without a proof of the secret

A request that has to carry credentials is turned away where they do not attest a user, and the
provider of roles is not asked.

* `outcome_of_refusal`: the answer that a refusal is turned into, or why it cannot be sent;
* `exchange_of_refused`: all that becomes of a request whose credentials are refused;
* `turns_away_unattested`: what is accepted, and what becomes of everything else;
* `exchange_reports_unsayable`: a refusal that nobody gets to read.
-/
namespace AccessControl

/-- A refusal is answered where it can be sent. -/
theorem outcome_of_refusal {refusal : Refusal} (tame : Token.IsTame refusal) :
    Outcome.ofBody 401 (refusalBody refusal) =
      if refusal.isSayable then .answered ⟨401, refusalBody refusal⟩
      else .crashed (.unencodable (refusalBody refusal)) := by
  have finite : (refusalBody refusal).isFinite = true := rfl
  have key : Text.isEncodable "error" = true := by decide
  have ascii : Text.IsAscii "Authentication error: ".toList := by decide
  have sendable : (refusalBody refusal).isEncodable = refusal.isSayable := by
    have texts : (refusalBody refusal).isEncodable = (Text.isEncodable "error" &&
        Text.isEncodable ("Authentication error: " ++ refusal.failure.text) && true) := rfl
    rw [texts, key, Text.isEncodable_append ascii, Refusal.isEncodable_text tame]
    simp
  rw [Outcome.ofBody, finite, sendable]
  cases refusal.isSayable <;> rfl

/-- Every refusal is an authentication failure. -/
theorem Refusal.kind_cases (refusal : Refusal) :
    refusal.failure.kind = .invalidToken ∨ refusal.failure.kind = .tokenExpired := by
  cases refusal with
  | expired => exact Or.inr rfl
  | _ => exact Or.inl rfl

namespace Gateway

variable {g : Gateway} {clock : Clock} {r : Request}

/-- Whoever knows the roles is not asked about a request whose credentials are refused. -/
theorem exchange_of_refused (method : IsMethod r.method) (held : ¬ r.IsExempt g.settings)
    (ordinary : ¬ r.IsAuthentication g.settings) {refusal : Refusal}
    (refused : Token.validate admissionDepth g.settings clock r.credentials? =
      .error (.refused refusal)) (tame : Token.IsTame refusal)
    (rolesOf : Json → Except Raised ProvidedRoles) :
    { g with rolesOf }.exchange clock r =
      { outcome := if refusal.isSayable then .answered ⟨401, refusalBody refusal⟩
          else .crashed (.unencodable (refusalBody refusal))
        events := [.refused r.method r.addressPath refusal.failure]
        endpointRan := false } := by
  have judged : { g with rolesOf }.judge clock r =
      ⟨.finish (.ofBody 401 (refusalBody refusal)),
        [.refused r.method r.addressPath refusal.failure]⟩ := by
    rw [judge, Request.admission_of_credentials method held ordinary, refused]
  rw [exchange, judged, outcome_of_refusal tame]

/-- Nor about one whose credentials break the validation. -/
theorem exchange_of_broken (method : IsMethod r.method) (held : ¬ r.IsExempt g.settings)
    (ordinary : ¬ r.IsAuthentication g.settings) {fault : ValidationFault}
    (broken : Token.validate admissionDepth g.settings clock r.credentials? =
      .error (.broken fault)) (rolesOf : Json → Except Raised ProvidedRoles) :
    { g with rolesOf }.exchange clock r =
      { outcome := .crashed (.notValidated fault), events := [], endpointRan := false } := by
  have judged : { g with rolesOf }.judge clock r =
      ⟨.finish (.crashed (.notValidated fault)), []⟩ := by
    rw [judge, Request.admission_of_credentials method held ordinary, broken]
  rw [exchange, judged]

/-- A gateway under a secret that signs. A header is accepted with a user exactly when it attests the
user, and any other whose token has octets is refused as invalid or expired. A request that has to
carry credentials and is refused is turned away without the provider of roles, with a 401, but for a
refusal that repeats a name which cannot be sent. A token without octets breaks the validation. -/
theorem turns_away_unattested (g : Gateway) (algorithm : Algorithm) (now : Instant)
    (known : g.settings.algorithm = algorithm.text)
    (usable : checkSecret g.settings.secret = .ok ()) :
    (∀ room header,
      let outcome := Token.validate room g.settings (.ok now) header
      (∀ userId, outcome = .ok userId ↔ ∃ w parameters claims,
        Token.Attests room g.settings algorithm now header w parameters claims userId) ∧
      (Token.HasOctets header → (∃ userId, outcome = .ok userId) ∨
        Token.Raises .invalidToken outcome ∨ Token.Raises .tokenExpired outcome) ∧
      (¬ Token.HasOctets header → outcome = .error (.broken .unencodable))) ∧
    ∀ r : Request, IsMethod r.method → ¬ r.IsExempt g.settings → ¬ r.IsAuthentication g.settings →
      (∀ refusal, Token.validate admissionDepth g.settings (.ok now) r.credentials? =
          .error (.refused refusal) →
        ∀ rolesOf, { g with rolesOf }.exchange (.ok now) r =
          { outcome := if refusal.isSayable then .answered ⟨401, refusalBody refusal⟩
              else .crashed (.unencodable (refusalBody refusal))
            events := [.refused r.method r.addressPath refusal.failure]
            endpointRan := false }) ∧
      (¬ Token.HasOctets r.credentials? → ∀ rolesOf, { g with rolesOf }.exchange (.ok now) r =
        { outcome := .crashed (.notValidated .unencodable), events := [], endpointRan := false }) := by
  have refuses : ∀ {room header e}, Token.HasOctets header →
      Token.validate room g.settings (.ok now) header = .error e →
      ∃ refusal, e = .refused refusal ∧ Token.IsTame refusal :=
    fun octets fails => Token.refused_of_validate known usable octets fails
  constructor
  · intro room header
    refine ⟨fun userId => Token.validate_eq_ok_iff_attests known usable, fun octets => ?_,
      Token.broken_of_not_hasOctets⟩
    cases validated : Token.validate room g.settings (.ok now) header with
    | ok userId => exact Or.inl ⟨userId, rfl⟩
    | error e =>
      obtain ⟨refusal, rfl, -⟩ := refuses octets validated
      right
      simp only [Token.raises_refused_iff]
      exact refusal.kind_cases
  · intro r method held ordinary
    constructor
    · intro refusal refused
      have octets : Token.HasOctets r.credentials? := by
        by_contra lacks
        cases (Token.broken_of_not_hasOctets lacks).symm.trans refused
      obtain ⟨_, ⟨⟩, tame⟩ := refuses octets refused
      exact exchange_of_refused method held ordinary refused tame
    · intro lacks
      exact exchange_of_broken method held ordinary (Token.broken_of_not_hasOctets lacks)

end Gateway

def sharedGateway : Gateway := { reportsGateway with settings := Token.issuingSettings }

def reportsRequest (credentials : String) : Request :=
  ⟨"GET", "/reports/may", [("authorization", credentials)]⟩

/-- A request with another scheme is turned away, whoever knows the roles. -/
theorem exchange_reports_turned_away :
    (sharedGateway.settings.algorithm = Algorithm.hs256.text ∧
      checkSecret sharedGateway.settings.secret = .ok () ∧
      IsMethod (reportsRequest "Basic YTpi").method ∧
      ¬ (reportsRequest "Basic YTpi").IsExempt sharedGateway.settings ∧
      ¬ (reportsRequest "Basic YTpi").IsAuthentication sharedGateway.settings) ∧
    ∀ rolesOf, ({ sharedGateway with rolesOf }.exchange (.ok ⟨0⟩) (reportsRequest "Basic YTpi")).outcome =
      .answered ⟨401, .obj [("error", .str "Authentication error: Invalid authorization type")]⟩ := by
  have known : sharedGateway.settings.algorithm = Algorithm.hs256.text := rfl
  have usable : checkSecret sharedGateway.settings.secret = .ok () := Token.checkSecret_issuingSettings
  have method : IsMethod (reportsRequest "Basic YTpi").method := by decide
  have held : ¬ (reportsRequest "Basic YTpi").IsExempt sharedGateway.settings := by decide
  have ordinary : ¬ (reportsRequest "Basic YTpi").IsAuthentication sharedGateway.settings := by decide
  have refused : Token.validate admissionDepth sharedGateway.settings (.ok ⟨0⟩)
      (reportsRequest "Basic YTpi").credentials? = .error (.refused .noBearer) := by decide
  have turned := (Gateway.turns_away_unattested sharedGateway .hs256 ⟨0⟩ known usable).2
    (reportsRequest "Basic YTpi") method held ordinary
  refine ⟨⟨known, usable, method, held, ordinary⟩, fun rolesOf => ?_⟩
  rw [turned.1 .noBearer refused rolesOf]
  rfl

def loneHalf : String := String.ofList (Text.spelled 0xD800)

/-- Without knowing the secret one can make the gateway fail: it refuses a token whose header asks for an
extension that is called by half a pair, but cannot send the refusal. And a token that holds half a pair
itself is not even refused. -/
theorem exchange_reports_unsayable :
    Token.validate admissionDepth sharedGateway.settings (.ok ⟨0⟩)
        (some "Bearer eyJjcml0IjpbIlx1ZDgwMCJdfQ..") =
      .error (.refused (.invalid (.unknownCritical loneHalf))) ∧
    (sharedGateway.exchange (.ok ⟨0⟩)
        (reportsRequest "Bearer eyJjcml0IjpbIlx1ZDgwMCJdfQ..")).outcome =
      .crashed (.unencodable (refusalBody (.invalid (.unknownCritical loneHalf)))) ∧
    (sharedGateway.exchange (.ok ⟨0⟩)
        (reportsRequest "Bearer eyJjcml0IjpbIlx1ZDgwMCJdfQ..")).outcome.response.status = 500 ∧
    Token.validate admissionDepth sharedGateway.settings (.ok ⟨0⟩)
        (some ("Bearer " ++ loneHalf ++ ".x.y")) = .error (.broken .unencodable) := by
  have written : "Bearer eyJjcml0IjpbIlx1ZDgwMCJdfQ.." =
      "Bearer " ++ String.ofList (Token.askingToken loneHalf) := by decide +kernel
  have joined : Text.IsJoined loneHalf := by decide
  have refused : Token.validate admissionDepth sharedGateway.settings (.ok ⟨0⟩)
      (some "Bearer eyJjcml0IjpbIlx1ZDgwMCJdfQ..") =
        .error (.refused (.invalid (.unknownCritical loneHalf))) := by
    rw [written]
    exact Token.validate_askingToken (by decide) _ _ joined (by decide)
  have tame : Token.IsTame (.invalid (.unknownCritical loneHalf)) :=
    Token.isTame_invalid fun name quoted => Or.inl (by cases quoted; rfl)
  have unsayable : Refusal.isSayable (.invalid (.unknownCritical loneHalf)) = false := by decide
  have ended := Gateway.exchange_of_refused (g := sharedGateway)
    (r := reportsRequest "Bearer eyJjcml0IjpbIlx1ZDgwMCJdfQ..") (by decide) (by decide) (by decide)
    refused tame sharedGateway.rolesOf
  have lacks : ¬ Token.HasOctets (some ("Bearer " ++ loneHalf ++ ".x.y")) := by
    intro octets
    exact absurd (octets _ rfl) (by decide)
  have crashed : (sharedGateway.exchange (.ok ⟨0⟩)
      (reportsRequest "Bearer eyJjcml0IjpbIlx1ZDgwMCJdfQ..")).outcome =
        .crashed (.unencodable (refusalBody (.invalid (.unknownCritical loneHalf)))) := by
    rw [ended, unsayable]
    rfl
  exact ⟨refused, crashed, by rw [crashed]; rfl, Token.broken_of_not_hasOctets lacks⟩

end AccessControl
