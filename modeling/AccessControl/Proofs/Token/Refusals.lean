import AccessControl.Proofs.Token.Acceptance
import AccessControl.Proofs.Token.RoundTrip

/-!
# How headers are refused

Under a secret that signs, a header that is not accepted is refused, but one whose token has no octets
is not even that. Only the fault of a critical extension that is not known repeats what the token says;
all other wordings are the library's own. One lemma for each step says so of its faults.
-/
namespace AccessControl

/-- What the wording of a fault repeats. -/
def TokenFault.quoted? : TokenFault → Option String
  | .unknownCritical name | .absentCritical name => some name
  | _ => none

/-- The fault repeats nothing but the name of an extension that is not known, or the one that is. -/
def TokenFault.IsTame (fault : TokenFault) : Prop :=
  ∀ name, fault.quoted? = some name →
    fault = .unknownCritical name ∨ name = Token.encodingParameter

theorem TokenFault.isTame_of_quoted? {fault : TokenFault} (nothing : fault.quoted? = none) :
    fault.IsTame := by
  intro name quoted
  rw [nothing] at quoted
  cases quoted

namespace Token

/-! ### Segments -/

theorem quoted?_of_cut {token : List Char} {fault : TokenFault} (fails : cut token = .error fault) :
    fault.quoted? = none := by
  unfold cut at fails
  split at fails
  · split at fails
    · cases fails
    · cases fails
      rfl
  · cases fails
    rfl

theorem quoted?_of_bytesOf {s : TokenSegment} {written : List Char} {fault : TokenFault}
    (fails : bytesOf s written = .error fault) : fault.quoted? = none := by
  rw [bytesOf] at fails
  split at fails <;> cases fails
  rfl

theorem quoted?_of_objectOf {room : Nat} {s : TokenSegment} {bytes : Bytes} {fault : TokenFault}
    (fails : objectOf room s bytes = .error fault) : fault.quoted? = none := by
  rw [objectOf] at fails
  split at fails <;> cases fails <;> rfl

theorem quoted?_of_partsOf {room : Nat} {token : List Char} {fault : TokenFault}
    (fails : partsOf room token = .error fault) : fault.quoted? = none := by
  unfold partsOf at fails
  obtain fails | ⟨w, -, fails⟩ := bind_eq_error_iff.mp fails
  · exact quoted?_of_cut fails
  obtain fails | ⟨bytes, -, fails⟩ := bind_eq_error_iff.mp fails
  · exact quoted?_of_bytesOf fails
  obtain fails | ⟨header, -, fails⟩ := bind_eq_error_iff.mp fails
  · exact quoted?_of_objectOf fails
  split at fails
  · cases fails
    rfl
  obtain fails | ⟨payload, -, fails⟩ := bind_eq_error_iff.mp fails
  · exact quoted?_of_bytesOf fails
  obtain fails | ⟨signature, -, fails⟩ := bind_eq_error_iff.mp fails
  · exact quoted?_of_bytesOf fails
  · cases fails

/-! ### The header -/

/-- The extensions of a header are looked at one by one. -/
theorem isTame_of_checkExtension {header : List (String × Json)} {name : Json} {fault : TokenFault}
    (fails : checkExtension header name = .error fault) : fault.IsTame := by
  unfold checkExtension at fails
  split at fails
  · split at fails
    · cases fails
      rintro _ ⟨⟩
      exact Or.inl rfl
    · rename_i named
      split at fails
      · cases fails
        rintro _ ⟨⟩
        exact Or.inr (Decidable.not_not.mp named)
      · cases fails
  · cases fails
    exact TokenFault.isTame_of_quoted? rfl

theorem isTame_of_forM_checkExtension {header : List (String × Json)} {names : List Json}
    {fault : TokenFault} (fails : names.forM (checkExtension header) = .error fault) :
    fault.IsTame := by
  induction names with
  | nil => cases fails
  | cons name names ih =>
    obtain fails | ⟨_, -, fails⟩ := bind_eq_error_iff.mp fails
    · exact isTame_of_checkExtension fails
    · exact ih fails

theorem isTame_of_checkHeader {header : List (String × Json)} {fault : TokenFault}
    (fails : checkHeader header = .error fault) : fault.IsTame := by
  obtain fails | ⟨_, -, fails⟩ := bind_eq_error_iff.mp fails
  · rw [checkKeyId] at fails
    split at fails <;> cases fails
    exact TokenFault.isTame_of_quoted? rfl
  obtain fails | ⟨_, -, fails⟩ := bind_eq_error_iff.mp fails
  · rw [checkCritical] at fails
    split at fails
    · cases fails
    · exact isTame_of_forM_checkExtension fails
    · cases fails
      exact TokenFault.isTame_of_quoted? rfl
  · rw [checkEncoding] at fails
    split at fails
    · split at fails <;> cases fails <;> exact TokenFault.isTame_of_quoted? rfl
    · cases fails

theorem quoted?_of_checkAlgorithm {s : Settings} {header : List (String × Json)} {fault : TokenFault}
    (fails : checkAlgorithm s header = .error fault) : fault.quoted? = none := by
  rw [checkAlgorithm] at fails
  split at fails
  · cases fails
    rfl
  · split at fails <;> cases fails
    rfl

/-! ### The claims -/

def IsTame (refusal : Refusal) : Prop := ∀ fault, refusal = .invalid fault → fault.IsTame

theorem isTame_of_not_invalid {refusal : Refusal} (other : ∀ fault, refusal ≠ .invalid fault) :
    IsTame refusal := by
  intro fault same
  exact absurd same (other fault)

theorem isTame_invalid {fault : TokenFault} (tame : fault.IsTame) : IsTame (.invalid fault) := by
  intro _ same
  cases same
  exact tame

theorem isTame_invalid_of_quoted? {fault : TokenFault} (nothing : fault.quoted? = none) :
    IsTame (.invalid fault) :=
  isTame_invalid (TokenFault.isTame_of_quoted? nothing)

theorem isTame_of_timeOf {claim : TimeClaim} {claims : List (String × Json)} {refusal : Refusal}
    (fails : timeOf claim claims = .error refusal) : IsTame refusal := by
  rw [timeOf] at fails
  split at fails
  · cases fails
  · split at fails <;> cases fails
    exact isTame_invalid_of_quoted? rfl

theorem isTame_of_checkTimes {now : Instant} {claims : List (String × Json)} {refusal : Refusal}
    (fails : checkTimes now claims = .error refusal) : IsTame refusal := by
  unfold checkTimes at fails
  obtain fails | ⟨issued, -, fails⟩ := bind_eq_error_iff.mp fails
  · exact isTame_of_timeOf fails
  dsimp only at fails
  split at fails
  · cases fails
    exact isTame_invalid_of_quoted? rfl
  obtain fails | ⟨started, -, fails⟩ := bind_eq_error_iff.mp fails
  · exact isTame_of_timeOf fails
  split at fails
  · cases fails
    exact isTame_invalid_of_quoted? rfl
  obtain fails | ⟨expires, -, fails⟩ := bind_eq_error_iff.mp fails
  · exact isTame_of_timeOf fails
  split at fails
  · cases fails
    exact isTame_of_not_invalid (by simp)
  · cases fails

theorem quoted?_of_checkIssuer {claims : List (String × Json)} {fault : TokenFault}
    (fails : checkIssuer claims = .error fault) : fault.quoted? = none := by
  rw [checkIssuer] at fails
  split at fails
  · cases fails
    rfl
  · split at fails <;> cases fails
    rfl
  · cases fails
    rfl

theorem quoted?_of_checkAudience {claims : List (String × Json)} {fault : TokenFault}
    (fails : checkAudience claims = .error fault) : fault.quoted? = none := by
  rw [checkAudience] at fails
  split at fails
  · cases fails
    rfl
  split at fails
  · split at fails <;> cases fails
    rfl
  · split at fails
    · cases fails
      rfl
    · split at fails <;> cases fails
      rfl
  · cases fails
    rfl

theorem quoted?_of_checkText {key : String} {given fault : TokenFault}
    {claims : List (String × Json)} (nothing : given.quoted? = none)
    (fails : checkText key given claims = .error fault) : fault.quoted? = none := by
  rw [checkText] at fails
  split at fails
  · cases fails
  · cases fails
  · cases fails
    exact nothing

theorem isTame_of_checkClaims {now : Instant} {claims : List (String × Json)} {refusal : Refusal}
    (fails : checkClaims now claims = .error refusal) : IsTame refusal := by
  obtain fails | ⟨_, -, fails⟩ := bind_eq_error_iff.mp fails
  · exact isTame_of_checkTimes fails
  obtain ⟨fault, wrong, rfl⟩ := mapError_eq_error_iff.mp fails
  apply isTame_invalid_of_quoted?
  obtain wrong | ⟨_, -, wrong⟩ := bind_eq_error_iff.mp wrong
  · exact quoted?_of_checkIssuer wrong
  obtain wrong | ⟨_, -, wrong⟩ := bind_eq_error_iff.mp wrong
  · exact quoted?_of_checkAudience wrong
  obtain wrong | ⟨_, -, wrong⟩ := bind_eq_error_iff.mp wrong
  · exact quoted?_of_checkText rfl wrong
  · exact quoted?_of_checkText rfl wrong

/-! ### Validation -/

theorem isTame_of_ofHeader {header : Option String} {refusal : Refusal}
    (fails : ofHeader header = .error refusal) : IsTame refusal := by
  rw [ofHeader] at fails
  split at fails
  · cases fails
    exact isTame_of_not_invalid (by simp)
  · split at fails
    · split at fails <;> cases fails
      exact isTame_of_not_invalid (by simp)
    · cases fails
      exact isTame_of_not_invalid (by simp)

/-- A step that fails for tame faults refuses. -/
theorem refused_of_mapError {α : Type} {step : Except TokenFault α} {e : ValidationError}
    (fails : (step.mapError fun fault => .refused (.invalid fault)) = .error e)
    (tame : ∀ {fault}, step = .error fault → fault.IsTame) :
    ∃ refusal, e = .refused refusal ∧ IsTame refusal := by
  obtain ⟨fault, wrong, rfl⟩ := mapError_eq_error_iff.mp fails
  exact ⟨.invalid fault, rfl, isTame_invalid (tame wrong)⟩

/-- A token with octets that is not verified is refused. -/
theorem refused_of_verified {room : Nat} {s : Settings} {algorithm : Algorithm}
    (known : s.algorithm = algorithm.text) (usable : checkSecret s.secret = .ok ())
    {token : List Char} (encodable : Text.isEncodable (String.ofList token) = true)
    {e : ValidationError} (fails : verified room s token = .error e) :
    ∃ refusal, e = .refused refusal ∧ IsTame refusal := by
  unfold verified at fails
  rw [encodable] at fails
  obtain fails | ⟨p, -, fails⟩ := bind_eq_error_iff.mp fails
  · exact refused_of_mapError fails fun wrong =>
      TokenFault.isTame_of_quoted? (quoted?_of_partsOf wrong)
  obtain fails | ⟨_, -, fails⟩ := bind_eq_error_iff.mp fails
  · exact refused_of_mapError fails isTame_of_checkHeader
  obtain fails | ⟨_, -, fails⟩ := bind_eq_error_iff.mp fails
  · exact refused_of_mapError fails fun wrong =>
      TokenFault.isTame_of_quoted? (quoted?_of_checkAlgorithm wrong)
  obtain fails | ⟨_, -, fails⟩ := bind_eq_error_iff.mp fails
  · rw [checkSignature_eq known usable] at fails
    split at fails <;> cases fails
    exact ⟨_, rfl, isTame_invalid_of_quoted? rfl⟩
  · exact refused_of_mapError fails fun wrong =>
      TokenFault.isTame_of_quoted? (quoted?_of_objectOf wrong)

def HasOctets (header : Option String) : Prop :=
  ∀ token, ofHeader header = .ok token → Text.isEncodable (String.ofList token) = true

/-- A header that is not accepted is refused. -/
theorem refused_of_validate {room : Nat} {s : Settings} {algorithm : Algorithm}
    (known : s.algorithm = algorithm.text) (usable : checkSecret s.secret = .ok ())
    {now : Instant} {header : Option String} (octets : HasOctets header) {e : ValidationError}
    (fails : validate room s (.ok now) header = .error e) :
    ∃ refusal, e = .refused refusal ∧ IsTame refusal := by
  obtain fails | ⟨token, held, fails⟩ := bind_eq_error_iff.mp fails
  · obtain ⟨refusal, wrong, rfl⟩ := mapError_eq_error_iff.mp fails
    exact ⟨refusal, rfl, isTame_of_ofHeader wrong⟩
  have encodable := octets token (mapError_eq_ok_iff.mp held)
  obtain fails | ⟨claims, -, fails⟩ := bind_eq_error_iff.mp fails
  · exact refused_of_verified known usable encodable fails
  obtain fails | ⟨_, -, fails⟩ := bind_eq_error_iff.mp fails
  · cases fails
  obtain fails | ⟨_, -, fails⟩ := bind_eq_error_iff.mp fails
  · obtain ⟨refusal, wrong, rfl⟩ := mapError_eq_error_iff.mp fails
    exact ⟨refusal, rfl, isTame_of_checkClaims wrong⟩
  · split at fails
    · cases fails
    · cases fails
      refine ⟨_, rfl, ?_⟩
      exact isTame_of_not_invalid (by simp)

/-- Without octets in its token a header is not even refused. -/
theorem broken_of_not_hasOctets {room : Nat} {s : Settings} {clock : Clock} {header : Option String}
    (lacks : ¬ HasOctets header) : validate room s clock header = .error (.broken .unencodable) := by
  obtain ⟨token, lacks⟩ := Classical.not_forall.mp lacks
  obtain ⟨held, halves⟩ := Classical.not_imp.mp lacks
  have stops : verified room s token = .error (.broken .unencodable) := by
    rw [verified, Bool.eq_false_iff.mpr halves]
    rfl
  rw [validate, held]
  simp only [mapError_ok, bind, Except.bind, stops]

/-! ### Extensions that are not known -/

def askingHeader (name : String) : List (String × Json) := [("crit", .arr [.str name])]

def askingToken (name : String) : List Char := segment (.obj (askingHeader name)) ++ ['.', '.']

/-- Whoever knows no secret can have any name repeated. -/
theorem validate_askingToken {room : Nat} (fits : 2 ≤ room) (s : Settings) (clock : Clock)
    {name : String} (joined : Text.IsJoined name) (unknown : name ≠ encodingParameter) :
    validate room s clock (some ("Bearer " ++ String.ofList (askingToken name))) =
      .error (.refused (.invalid (.unknownCritical name))) := by
  have ascii : Text.IsAscii (askingToken name) :=
    Text.isAscii_append.mpr ⟨Base64Url.isAscii_encode _, by decide⟩
  have regular : (Json.obj (askingHeader name)).isRegular = true := by
    have key : Text.IsJoined "crit" := by decide
    simp [askingHeader, Json.isRegular, Json.membersRegular, Json.allRegular, joined, key]
  have read : Json.ofDocument room (Utf8.encode ((Json.obj (askingHeader name)).write .compact)) =
      .ok (.obj (askingHeader name)) := Json.ofDocument_write rfl regular (Nat.zero_le _) fits
  have cutUp : cut (askingToken name) = .ok ⟨segment (.obj (askingHeader name)) ++ ['.'],
      segment (.obj (askingHeader name)), [], []⟩ := by
    rw [cut_eq_ok_iff]
    exact ⟨⟨by simp [askingToken], by simp⟩, rfl, Base64Url.point_not_mem_encode _⟩
  have parts : partsOf room (askingToken name) =
      .ok ⟨segment (.obj (askingHeader name)) ++ ['.'], askingHeader name, [], []⟩ := by
    rw [partsOf_eq_ok_iff]
    refine ⟨_, cutUp, rfl, ⟨_, Base64Url.decode_encode _, read⟩, ?_, rfl, rfl⟩
    intro unencoded
    cases unencoded
  have refused : checkHeader (askingHeader name) = .error (.unknownCritical name) := by
    have asked : checkExtension (askingHeader name) (.str name) = .error (.unknownCritical name) := by
      rw [checkExtension, if_pos unknown]
    have listed : checkCritical (askingHeader name) = .error (.unknownCritical name) := by
      exact bind_eq_error_iff.mpr (Or.inl asked)
    have unkeyed : checkKeyId (askingHeader name) = .ok () := rfl
    rw [checkHeader, unkeyed, listed]
    rfl
  have stops : verified room s (askingToken name) =
      .error (.refused (.invalid (.unknownCritical name))) := by
    simp only [verified, Text.isEncodable_ascii ascii, Bool.not_true, Bool.false_eq_true, if_false,
      parts, mapError_ok, mapError_error, bind, Except.bind, refused]
  rw [validate, ofHeader_bearer (by simp [askingToken])]
  simp only [mapError_ok, bind, Except.bind, stops]

end Token

end AccessControl
