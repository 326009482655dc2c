import AccessControl.Proofs.Token.Segments

/-!
# What each check of a token lets pass

One lemma for each step of validation: when it succeeds, and with what. `validate_eq_ok_iff` puts
them together.
-/
namespace AccessControl

theorem Algorithm.ofText?_eq_some_iff {name : String} {a : Algorithm} :
    ofText? name = some a ↔ name = a.text := by
  constructor
  · intro found
    unfold ofText? at found
    split at found
    · cases found
      assumption
    · split at found
      · cases found
        assumption
      · split at found
        · cases found
          assumption
        · cases found
  · rintro rfl
    cases a <;> rfl

namespace Token

/-- A check gives nothing but leave to go on. -/
theorem check_bind_eq_ok_iff {ε α : Type} {check : Except ε Unit} {next : Unit → Except ε α}
    {value : α} : (check >>= next) = .ok value ↔ check = .ok () ∧ next () = .ok value := by
  rw [bind_eq_ok_iff]
  constructor
  · rintro ⟨⟨⟩, passed, succeeds⟩
    exact ⟨passed, succeeds⟩
  · rintro ⟨passed, succeeds⟩
    exact ⟨(), passed, succeeds⟩

/-- A step that is only taken where nothing is thrown in front of it. -/
theorem guarded_eq_ok_iff {ε α : Type} {wrong : Prop} [Decidable wrong] {e : ε}
    {next : Unit → Except ε α} {value : α} :
    (if wrong then (throw e : Except ε Unit) >>= next else next ()) = .ok value ↔
      ¬ wrong ∧ next () = .ok value := by
  by_cases h : wrong
  · rw [if_pos h]
    constructor
    · intro succeeds
      cases succeeds
    · rintro ⟨right, -⟩
      exact absurd h right
  · rw [if_neg h, and_iff_right h]

/-! ### Segments -/

theorem bytesOf_eq_ok_iff {s : TokenSegment} {written : List Char} {bytes : Bytes} :
    bytesOf s written = .ok bytes ↔ Base64Url.decode written = some bytes := by
  rw [bytesOf]
  cases Base64Url.decode written <;> simp

theorem objectOf_eq_ok_iff {room : Nat} {s : TokenSegment} {bytes : Bytes}
    {members : List (String × Json)} :
    objectOf room s bytes = .ok members ↔ Json.ofDocument room bytes = .ok (.obj members) := by
  rw [objectOf]
  cases Json.ofDocument room bytes with
  | error e => simp
  | ok value => cases value <;> simp

/-- A token's parts are read from what it was cut into. -/
theorem partsOf_eq_ok_iff {room : Nat} {token : List Char} {p : Parts} :
    partsOf room token = .ok p ↔
      ∃ w, cut token = .ok w ∧ p.input = w.input ∧
        (∃ bytes, Base64Url.decode w.header = some bytes ∧
          Json.ofDocument room bytes = .ok (.obj p.header)) ∧
        (isUnencoded p.header = true → w.payload = []) ∧
        Base64Url.decode w.payload = some p.payload ∧
        Base64Url.decode w.signature = some p.signature := by
  constructor
  · intro taken
    obtain ⟨w, cutUp, taken⟩ := bind_eq_ok_iff.mp taken
    obtain ⟨bytes, decoded, taken⟩ := bind_eq_ok_iff.mp taken
    obtain ⟨header, read, taken⟩ := bind_eq_ok_iff.mp taken
    split at taken
    · cases taken
    · rename_i detached
      obtain ⟨payload, second, taken⟩ := bind_eq_ok_iff.mp taken
      obtain ⟨signature, third, taken⟩ := bind_eq_ok_iff.mp taken
      obtain rfl := Except.ok.inj taken
      refine ⟨w, cutUp, rfl, ⟨bytes, bytesOf_eq_ok_iff.mp decoded, objectOf_eq_ok_iff.mp read⟩,
        fun unencoded => ?_, bytesOf_eq_ok_iff.mp second, bytesOf_eq_ok_iff.mp third⟩
      simpa [show isUnencoded header = true from unencoded] using detached
  · rintro ⟨w, cutUp, input, ⟨bytes, decoded, read⟩, detached, second, third⟩
    have attached : (isUnencoded p.header && !w.payload.isEmpty) = false := by
      rw [Bool.and_eq_false_imp]
      intro unencoded
      rw [detached unencoded]
      rfl
    refine bind_eq_ok_iff.mpr ⟨w, cutUp, bind_eq_ok_iff.mpr ⟨bytes, bytesOf_eq_ok_iff.mpr decoded,
      bind_eq_ok_iff.mpr ⟨p.header, objectOf_eq_ok_iff.mpr read, ?_⟩⟩⟩
    rw [attached, if_neg Bool.false_ne_true]
    refine bind_eq_ok_iff.mpr ⟨p.payload, bytesOf_eq_ok_iff.mpr second,
      bind_eq_ok_iff.mpr ⟨p.signature, bytesOf_eq_ok_iff.mpr third, ?_⟩⟩
    rw [← input]
    rfl

/-! ### The header and the signature -/

theorem checkAlgorithm_eq_ok_iff {s : Settings} {header : List (String × Json)} :
    checkAlgorithm s header = .ok () ↔
      header.lookup "alg" = some (.str s.algorithm) ∧ s.algorithm ≠ "" := by
  rw [checkAlgorithm]
  cases header.lookup "alg" with
  | none => simp
  | some named => simp

theorem algorithm_ne {s : Settings} {algorithm : Algorithm} (known : s.algorithm = algorithm.text) :
    s.algorithm ≠ unsignedAlgorithm ∧ s.algorithm ≠ "" := by
  rw [known]
  cases algorithm <;> decide

theorem checkSignature_eq {s : Settings} {algorithm : Algorithm}
    (known : s.algorithm = algorithm.text) (usable : checkSecret s.secret = .ok ()) (p : Parts) :
    checkSignature s p = if p.signature = signature algorithm s.secret p.input then .ok ()
      else .error (.refused (.invalid .wrongSignature)) := by
  rw [checkSignature, if_neg (algorithm_ne known).1, Algorithm.ofText?_eq_some_iff.mpr known, usable]

theorem checkSignature_eq_ok_iff {s : Settings} {algorithm : Algorithm}
    (known : s.algorithm = algorithm.text) (usable : checkSecret s.secret = .ok ()) {p : Parts} :
    checkSignature s p = .ok () ↔ p.signature = signature algorithm s.secret p.input := by
  rw [checkSignature_eq known usable]
  simp

/-! ### The claims -/

/-- A time claim, where it is made, is a whole number of seconds that passes a test. -/
def TimeHolds (claim : TimeClaim) (claims : List (String × Json)) (test : Int → Prop) : Prop :=
  ∀ value, claims.lookup claim.key = some value → ∃ n, seconds? value = some n ∧ test n

/-- One time claim is looked at and found right. -/
theorem timeHolds_iff {claim : TimeClaim} {claims : List (String × Json)} {wrong : Int → Bool} :
    TimeHolds claim claims (wrong · = false) ↔
      ∃ time, timeOf claim claims = .ok time ∧ ¬ time.any wrong = true := by
  rw [TimeHolds, timeOf]
  cases claims.lookup claim.key with
  | none => simp
  | some value =>
    cases read : seconds? value with
    | none => simp [read]
    | some n => simp [read]

theorem thrown_eq_ok_iff {ε : Type} {wrong : Prop} [Decidable wrong] {e : ε} :
    (if wrong then throw e else pure () : Except ε Unit) = .ok () ↔ ¬ wrong := by
  by_cases h : wrong
  · rw [if_pos h]
    constructor
    · intro succeeds
      cases succeeds
    · intro right
      exact absurd h right
  · rw [if_neg h]
    exact ⟨fun _ => h, fun _ => rfl⟩

theorem checkTimes_eq_ok_iff {now : Instant} {claims : List (String × Json)} :
    checkTimes now claims = .ok () ↔
      TimeHolds .issuedAt claims (now.isBefore · = false) ∧
      TimeHolds .notBefore claims (now.isBefore · = false) ∧
      TimeHolds .expires claims (fun n => (!now.isBefore n) = false) := by
  simp only [timeHolds_iff]
  unfold checkTimes
  simp only [bind_eq_ok_iff, guarded_eq_ok_iff, thrown_eq_ok_iff]
  constructor
  · rintro ⟨issued, first, past, started, second, begun, expires, third, unexpired⟩
    exact ⟨⟨issued, first, past⟩, ⟨started, second, begun⟩, expires, third, unexpired⟩
  · rintro ⟨⟨issued, first, past⟩, ⟨started, second, begun⟩, expires, third, unexpired⟩
    exact ⟨issued, first, past, started, second, begun, expires, third, unexpired⟩

theorem checkIssuer_eq_ok_iff {claims : List (String × Json)} :
    checkIssuer claims = .ok () ↔ claims.lookup "iss" = some (.str tokenIssuer) := by
  rw [checkIssuer]
  cases claims.lookup "iss" with
  | none => simp
  | some value => cases value <;> simp

/-- The audience is named alone, or in a list of texts. -/
def NamesAudience : Json → Prop
  | .str name => name = tokenAudience
  | .arr names => .str tokenAudience ∈ names ∧ ∀ name ∈ names, ∃ text, name = .str text
  | _ => False

theorem checkAudience_eq_ok_iff {claims : List (String × Json)} :
    checkAudience claims = .ok () ↔
      ∃ audience, claims.lookup "aud" = some audience ∧ NamesAudience audience := by
  have given : ∀ audience : Json, NamesAudience audience → audience.isVacant = false := by
    intro audience names
    cases audience with
    | str name =>
      obtain rfl : name = tokenAudience := names
      decide
    | arr listed =>
      cases listed with
      | nil => cases names.1
      | cons => rfl
    | _ => cases names
  rw [checkAudience]
  cases claims.lookup "aud" with
  | none => simp [Json.isVacant]
  | some audience =>
    simp only [Option.getD_some, Option.some.injEq, exists_eq_left']
    by_cases vacant : audience.isVacant = true
    · rw [if_pos vacant]
      constructor
      · intro succeeds
        cases succeeds
      · intro names
        rw [given audience names] at vacant
        cases vacant
    · rw [if_neg vacant]
      cases audience with
      | str name => simp [NamesAudience]
      | arr names =>
        dsimp only
        split
        · rename_i others
          obtain ⟨name, listed, other⟩ := List.any_eq_true.mp others
          constructor
          · intro succeeds
            cases succeeds
          · rintro ⟨-, texts⟩
            obtain ⟨text, rfl⟩ := texts name listed
            cases other
        · rename_i others
          have texts : ∀ name ∈ names, ∃ text, name = .str text := by
            intro name listed
            have isText := List.any_eq_false.mp (Bool.eq_false_iff.mpr others) name listed
            cases name with
            | str text => exact ⟨text, rfl⟩
            | _ => exact absurd rfl isText
          have same : NamesAudience (.arr names) ↔ names.contains (.str tokenAudience) = true := by
            rw [List.contains_iff_mem]
            exact and_iff_left texts
          rw [same]
          simp
      | _ => simp [NamesAudience]

theorem checkText_eq_ok_iff {key : String} {fault : TokenFault} {claims : List (String × Json)} :
    checkText key fault claims = .ok () ↔
      ∀ value, claims.lookup key = some value → ∃ text, value = .str text := by
  rw [checkText]
  cases claims.lookup key with
  | none => simp
  | some value => cases value <;> simp

/-- The claims that are accepted at a point in time. -/
structure Holds (now : Instant) (claims : List (String × Json)) : Prop where
  issued : TimeHolds .issuedAt claims (now.isBefore · = false)
  started : TimeHolds .notBefore claims (now.isBefore · = false)
  unexpired : TimeHolds .expires claims (now.isBefore · = true)
  issuer : claims.lookup "iss" = some (.str tokenIssuer)
  audience : ∃ audience, claims.lookup "aud" = some audience ∧ NamesAudience audience
  subject : ∀ value, claims.lookup "sub" = some value → ∃ text, value = .str text
  identifier : ∀ value, claims.lookup "jti" = some value → ∃ text, value = .str text

theorem checkClaims_eq_ok_iff {now : Instant} {claims : List (String × Json)} :
    checkClaims now claims = .ok () ↔ Holds now claims := by
  unfold checkClaims
  simp only [check_bind_eq_ok_iff, mapError_eq_ok_iff, checkTimes_eq_ok_iff, checkIssuer_eq_ok_iff,
    checkAudience_eq_ok_iff, checkText_eq_ok_iff, Bool.not_eq_false']
  constructor
  · rintro ⟨⟨issued, started, unexpired⟩, issuer, audience, subject, identifier⟩
    exact ⟨issued, started, unexpired, issuer, audience, subject, identifier⟩
  · rintro ⟨issued, started, unexpired, issuer, audience, subject, identifier⟩
    exact ⟨⟨issued, started, unexpired⟩, issuer, audience, subject, identifier⟩

/-! ### Validation -/

/-- A token is verified as the claims in its payload. -/
theorem verified_eq_ok_iff {room : Nat} {s : Settings} {algorithm : Algorithm}
    (known : s.algorithm = algorithm.text) (usable : checkSecret s.secret = .ok ())
    {token : List Char} {claims : List (String × Json)} :
    verified room s token = .ok claims ↔
      Text.isEncodable (String.ofList token) = true ∧
      ∃ p, partsOf room token = .ok p ∧ checkHeader p.header = .ok () ∧
        p.header.lookup "alg" = some (.str s.algorithm) ∧
        p.signature = signature algorithm s.secret p.input ∧
        Json.ofDocument room p.payload = .ok (.obj claims) := by
  unfold verified
  simp only [guarded_eq_ok_iff, bind_eq_ok_iff, mapError_eq_ok_iff, objectOf_eq_ok_iff,
    checkSignature_eq_ok_iff known usable, Bool.not_eq_true', Bool.not_eq_false]
  constructor
  · rintro ⟨encodable, p, parts, ⟨⟩, header, ⟨⟩, named, ⟨⟩, signed, read⟩
    exact ⟨encodable, p, parts, header, (checkAlgorithm_eq_ok_iff.mp named).1, signed, read⟩
  · rintro ⟨encodable, p, parts, header, same, signed, read⟩
    have named : checkAlgorithm s p.header = .ok () :=
      checkAlgorithm_eq_ok_iff.mpr ⟨same, (algorithm_ne known).2⟩
    exact ⟨encodable, p, parts, (), header, (), named, (), signed, read⟩

/-- A header is accepted when it holds a token whose claims are verified and hold, and a user is among
them. -/
theorem validate_eq_ok_iff {room : Nat} {s : Settings} {now : Instant} {header : Option String}
    {userId : Json} :
    validate room s (.ok now) header = .ok userId ↔
      ∃ token claims, ofHeader header = .ok token ∧ verified room s token = .ok claims ∧
        Holds now claims ∧ claims.lookup "userId" = some userId := by
  unfold validate
  simp only [bind_eq_ok_iff, mapError_eq_ok_iff, Except.ok.injEq, exists_eq_left']
  constructor
  · rintro ⟨token, held, claims, read, ⟨⟩, holds, user⟩
    refine ⟨token, claims, held, read, checkClaims_eq_ok_iff.mp holds, ?_⟩
    split at user
    · rename_i found
      rw [found, Except.ok.inj user]
    · cases user
  · rintro ⟨token, claims, held, read, holds, user⟩
    refine ⟨token, held, claims, read, (), checkClaims_eq_ok_iff.mpr holds, ?_⟩
    rw [user]
    rfl

end Token

end AccessControl
