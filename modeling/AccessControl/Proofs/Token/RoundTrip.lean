import AccessControl.Proofs.Json.Documents
import AccessControl.Proofs.Text.Base64Url
import AccessControl.Proofs.Token.Checks

/-!
# Issued tokens

A token that one installation issues is taken apart by every other: its segments are cut where they
were joined, and each is read back. What is left are the checks: of the algorithm, the signature and
the times.
-/
namespace AccessControl

theorem Algorithm.text_injective {a b : Algorithm} (same : a.text = b.text) : a = b := by
  cases a <;> cases b <;> first | rfl | exact absurd same (by decide)

def Instant.ofSeconds (seconds : Int) : Instant := ⟨seconds * 1000000⟩

theorem Instant.seconds_ofSeconds (n : Int) : (ofSeconds n).seconds = n := by
  unfold seconds ofSeconds
  dsimp only
  omega

theorem Instant.isBefore_ofSeconds (n m : Int) : (ofSeconds n).isBefore m = decide (n < m) := by
  unfold isBefore ofSeconds
  dsimp only
  rw [decide_eq_decide]
  omega

namespace Token

/-! ### Issuing -/

/-- A token is issued when its algorithm and secret sign, it does not expire too late, no number in it
is too long and nothing too deep; then it says who its user is, from when and until when. -/
theorem issue_eq_ok_iff {s : Settings} {userId : Json} {now : Instant} {issued : IssuedToken} :
    issue s userId (.ok now) = .ok issued ↔
      ∃ algorithm : Algorithm, s.algorithm = algorithm.text ∧ checkSecret s.secret = .ok () ∧
        now.seconds + s.lifetime ≤ lastSecond ∧
        (claims userId now.seconds (now.seconds + s.lifetime)).digits ≤ Text.maxDigits ∧
        (claims userId now.seconds (now.seconds + s.lifetime)).depth ≤ Json.maxDepth ∧
        (⟨String.ofList (encode algorithm s.secret
          (claims userId now.seconds (now.seconds + s.lifetime))), s.lifetime⟩ : IssuedToken) =
            issued := by
  rw [issue, issueAt]
  constructor
  · intro issues
    split_ifs at issues with late long deep unsigned
    split at issues
    · cases issues
    · cases issues
    · rename_i algorithm known usable
      exact ⟨algorithm, Algorithm.ofText?_eq_some_iff.mp known, usable, Int.not_lt.mp late,
        Nat.not_lt.mp long, Nat.not_lt.mp deep, Except.ok.inj issues⟩
  · rintro ⟨algorithm, known, usable, early, short, shallow, same⟩
    rw [if_neg (Int.not_lt.mpr early), if_neg (Nat.not_lt.mpr short),
      if_neg (Nat.not_lt.mpr shallow), if_neg (algorithm_ne known).1,
      Algorithm.ofText?_eq_some_iff.mpr known, usable]
    exact congrArg Except.ok same

/-! ### Segments -/

def signedText (algorithm : Algorithm) (claims : Json) : List Char :=
  segment (header algorithm) ++ '.' :: segment claims

theorem cut_encode (algorithm : Algorithm) (secret : String) (claims : Json) :
    cut (encode algorithm secret claims) =
      .ok ⟨signedText algorithm claims, segment (header algorithm), segment claims,
        Base64Url.encode (signature algorithm secret (signedText algorithm claims))⟩ := by
  rw [cut_eq_ok_iff]
  exact ⟨⟨rfl, Base64Url.point_not_mem_encode _⟩, rfl, Base64Url.point_not_mem_encode _⟩

theorem isAscii_encode (algorithm : Algorithm) (secret : String) (claims : Json) :
    Text.IsAscii (encode algorithm secret claims) := by
  have point : 0 < '.'.toNat ∧ '.'.toNat < 0x80 := by decide
  have signed : Text.IsAscii (signedText algorithm claims) :=
    Text.isAscii_append.mpr ⟨Base64Url.isAscii_encode _,
      Text.isAscii_cons.mpr ⟨point, Base64Url.isAscii_encode _⟩⟩
  exact Text.isAscii_append.mpr ⟨signed, Text.isAscii_cons.mpr ⟨point, Base64Url.isAscii_encode _⟩⟩

def headerMembers (algorithm : Algorithm) : List (String × Json) :=
  [("alg", .str algorithm.text), ("typ", .str "JWT")]

/-- An issued token is taken apart into what it was put together from. -/
theorem partsOf_encode {room : Nat} (fits : 1 ≤ room) (algorithm : Algorithm) (secret : String)
    (claims : Json) :
    partsOf room (encode algorithm secret claims) =
      .ok ⟨signedText algorithm claims, headerMembers algorithm,
        Utf8.encode (claims.write .compact),
        signature algorithm secret (signedText algorithm claims)⟩ := by
  have regular : (header algorithm).isRegular = true := by cases algorithm <;> decide
  have read : Json.ofDocument room (Utf8.encode ((header algorithm).write .compact)) =
      .ok (header algorithm) := Json.ofDocument_write rfl regular (Nat.zero_le _) fits
  rw [partsOf_eq_ok_iff]
  refine ⟨_, cut_encode algorithm secret claims, rfl, ⟨_, Base64Url.decode_encode _, read⟩, ?_,
    Base64Url.decode_encode _, Base64Url.decode_encode _⟩
  intro unencoded
  cases unencoded

/-! ### Claims -/

def claimMembers (userId : Json) (issued expires : Int) : List (String × Json) :=
  [("userId", userId), ("iat", .int issued), ("exp", .int expires),
    ("iss", .str tokenIssuer), ("aud", .str tokenAudience), ("sub", .str tokenSubject)]

/-- The claims are read back when the user's identifier can be. -/
theorem ofDocument_claims {room : Nat} {userId : Json} (floatFree : userId.isFloatFree = true)
    (regular : userId.isRegular = true) {issued expires : Int}
    (short : (claims userId issued expires).digits ≤ Text.maxDigits)
    (fits : (claims userId issued expires).depth ≤ room) :
    Json.ofDocument room (Utf8.encode ((claims userId issued expires).write .compact)) =
      .ok (.obj (claimMembers userId issued expires)) := by
  have floatFree' : (claims userId issued expires).isFloatFree = true := by
    simp [claims, Json.isFloatFree, Json.membersFloatFree, floatFree]
  have texts : Text.IsJoined "userId" ∧ Text.IsJoined "iat" ∧ Text.IsJoined "exp" ∧
      Text.IsJoined "iss" ∧ Text.IsJoined "aud" ∧ Text.IsJoined "sub" ∧
      Text.IsJoined tokenIssuer ∧ Text.IsJoined tokenAudience ∧ Text.IsJoined tokenSubject := by decide
  have regular' : (claims userId issued expires).isRegular = true := by
    simp [claims, Json.isRegular, Json.membersRegular, regular, texts]
  exact Json.ofDocument_write floatFree' regular' short fits

/-- The claims of issued tokens hold from the second of issue until they expire. -/
theorem checkClaims_claimMembers (now : Instant) (userId : Json) (issued expires : Int) :
    checkClaims now (claimMembers userId issued expires) =
      if now.isBefore issued then .error (.invalid (.tooEarly .issuedAt))
      else if now.isBefore expires then .ok ()
      else .error .expired := by
  have made : timeOf .issuedAt (claimMembers userId issued expires) = .ok (some issued) := rfl
  have started : timeOf .notBefore (claimMembers userId issued expires) = .ok none := rfl
  have ends : timeOf .expires (claimMembers userId issued expires) = .ok (some expires) := rfl
  have named : checkIssuer (claimMembers userId issued expires) = .ok () := rfl
  have meant : checkAudience (claimMembers userId issued expires) = .ok () := rfl
  have subject : checkText "sub" .subjectNotText (claimMembers userId issued expires) = .ok () := rfl
  have id : checkText "jti" .identifierNotText (claimMembers userId issued expires) = .ok () := rfl
  by_cases early : now.isBefore issued = true
  · rw [if_pos early, checkClaims, checkTimes, made]
    simp only [bind, Except.bind, Option.any_some, if_pos early]
    rfl
  · rw [if_neg early, checkClaims, checkTimes, made, started, ends, named, meant, subject, id]
    by_cases soon : now.isBefore expires = true
    · rw [if_pos soon]
      simp [bind, Except.bind, early, soon, pure, Except.pure, mapError_ok]
    · rw [if_neg soon]
      simp [bind, Except.bind, early, soon, throw, throwThe, MonadExceptOf.throw]

/-! ### Validation -/

/-- An issued token is verified under the algorithm and the signature that it was issued with. -/
theorem verified_encode {room : Nat} {s : Settings} {algorithm : Algorithm}
    (known : s.algorithm = algorithm.text) (usable : checkSecret s.secret = .ok ())
    (other : Algorithm) (secret : String) {claims : Json} {members : List (String × Json)}
    (fits : 1 ≤ room)
    (read : Json.ofDocument room (Utf8.encode (claims.write .compact)) = .ok (.obj members)) :
    verified room s (encode other secret claims) =
      if other ≠ algorithm then .error (.refused (.invalid .otherAlgorithm))
      else if signature algorithm secret (signedText other claims) =
        signature algorithm s.secret (signedText other claims) then .ok members
      else .error (.refused (.invalid .wrongSignature)) := by
  have encodable := Text.isEncodable_ascii (isAscii_encode other secret claims)
  have header : checkHeader (headerMembers other) = .ok () := rfl
  have object : objectOf room .payload (Utf8.encode (claims.write .compact)) = .ok members :=
    objectOf_eq_ok_iff.mpr read
  have named : checkAlgorithm s (headerMembers other) =
      if other = algorithm then .ok () else .error .otherAlgorithm := by
    have nonempty : algorithm.text ≠ "" := by cases algorithm <;> decide
    have lookup : (headerMembers other).lookup "alg" = some (.str other.text) := rfl
    rw [checkAlgorithm, lookup, known]
    cases other <;> cases algorithm <;> decide
  unfold verified
  simp only [encodable, Bool.not_true, Bool.false_eq_true, if_false, partsOf_encode fits,
    mapError_ok, bind, Except.bind, header, named, checkSignature_eq known usable, object]
  by_cases same : other = algorithm
  · subst same
    by_cases signed : signature other secret (signedText other claims) =
        signature other s.secret (signedText other claims)
    · simp [signed]
    · simp [signed]
  · simp [same]

theorem ofHeader_bearer {token : List Char} (more : token ≠ []) :
    ofHeader (some ("Bearer " ++ String.ofList token)) = .ok token := by
  rw [ofHeader_eq_ok_iff]
  refine ⟨more, _, rfl, ?_⟩
  simp only [String.toList_append, String.toList_ofList]
  rfl

/-- What becomes of an issued token: the first thing that is wrong decides. -/
theorem validate_issued {room : Nat} {A B : Settings} {algorithm : Algorithm}
    (known : B.algorithm = algorithm.text) (usable : checkSecret B.secret = .ok ()) {userId : Json}
    (floatFree : userId.isFloatFree = true) (regular : userId.isRegular = true)
    (fits : Json.maxDepth ≤ room) {start : Instant} {issued : IssuedToken}
    (issues : issue A userId (.ok start) = .ok issued) (now : Instant) :
    ∃ other : Algorithm, A.algorithm = other.text ∧ ∃ w, cut issued.token.toList = .ok w ∧
      validate room B (.ok now) (some ("Bearer " ++ issued.token)) =
        if other ≠ algorithm then .error (.refused (.invalid .otherAlgorithm))
        else if signature other A.secret w.input ≠ signature other B.secret w.input then
          .error (.refused (.invalid .wrongSignature))
        else if now.isBefore start.seconds then .error (.refused (.invalid (.tooEarly .issuedAt)))
        else if now.isBefore (start.seconds + A.lifetime) then .ok userId
        else .error (.refused .expired) := by
  obtain ⟨other, named, -, -, short, shallow, rfl⟩ := issue_eq_ok_iff.mp issues
  have read := ofDocument_claims floatFree regular short (shallow.trans fits)
  have some_room : 1 ≤ room := Nat.le_trans (by decide) fits
  have checked := verified_encode known usable other A.secret some_room read
  have found : (claimMembers userId start.seconds (start.seconds + A.lifetime)).lookup "userId" =
      some userId := rfl
  have more : encode other A.secret (claims userId start.seconds (start.seconds + A.lifetime)) ≠ [] := by
    simp [encode]
  have cutUp := cut_encode other A.secret
    (claims userId start.seconds (start.seconds + A.lifetime))
  rw [← String.toList_ofList (l := encode _ _ _)] at cutUp
  refine ⟨other, named, _, cutUp, ?_⟩
  rw [validate, ofHeader_bearer more, mapError_ok]
  simp only [bind, Except.bind, checked, mapError_ok]
  by_cases same : other = algorithm
  · subst same
    by_cases signed : signature other A.secret (signedText other
        (claims userId start.seconds (start.seconds + A.lifetime))) =
      signature other B.secret (signedText other
        (claims userId start.seconds (start.seconds + A.lifetime)))
    · simp only [signed, ne_eq, not_true_eq_false, if_true, if_false, checkClaims_claimMembers]
      by_cases early : now.isBefore start.seconds = true
      · simp [early]
      · by_cases soon : now.isBefore (start.seconds + A.lifetime) = true
        · simp [early, soon, found, pure, Except.pure]
        · simp [early, soon]
    · simp [signed]
  · simp [same]

def Raises (kind : FailureKind) (outcome : Except ValidationError Json) : Prop :=
  ∃ refusal, outcome = .error (.refused refusal) ∧ refusal.failure.kind = kind

theorem raises_refused_iff {kind : FailureKind} {refusal : Refusal} :
    Raises kind (.error (.refused refusal)) ↔ refusal.failure.kind = kind := by
  simp [Raises]

theorem kind_invalid (fault : TokenFault) :
    (Refusal.invalid fault).failure.kind = .invalidToken := rfl

theorem kind_expired : Refusal.expired.failure.kind = .tokenExpired := rfl

theorem not_raises_ok {kind : FailureKind} {userId : Json} : ¬ Raises kind (.ok userId) := by
  rintro ⟨refusal, accepted, -⟩
  cases accepted

/-- Tokens pass from one installation to another. A token that `A` issues for a user is refused as
invalid by `B` when the algorithms differ, and when the signatures under the two secrets do. Else `B`
accepts it for that very user from the second of issue until `A`'s lifetime is over, and refuses it as
expired then and as invalid before. `B`'s own lifetime plays no part, and an installation accepts the
tokens that it has just issued. The reader needs the room that the writer had. -/
theorem validate_issue_iff (room : Nat) (userId : Json) (floatFree : userId.isFloatFree = true)
    (regular : userId.isRegular = true) (fits : Json.maxDepth ≤ room) :
    (∀ (A B : Settings) (algorithm : Algorithm) (t₀ t : Int) (issued : IssuedToken),
      B.algorithm = algorithm.text → checkSecret B.secret = .ok () →
      issue A userId (.ok (.ofSeconds t₀)) = .ok issued →
      ∃ w, cut issued.token.toList = .ok w ∧
        let outcome := validate room B (.ok (.ofSeconds t)) (some ("Bearer " ++ issued.token))
        (A.algorithm ≠ B.algorithm → Raises .invalidToken outcome) ∧
        (A.algorithm = B.algorithm →
          signature algorithm A.secret w.input ≠ signature algorithm B.secret w.input →
          Raises .invalidToken outcome) ∧
        (A.algorithm = B.algorithm →
          signature algorithm A.secret w.input = signature algorithm B.secret w.input →
          (outcome = .ok userId ↔ t₀ ≤ t ∧ t < t₀ + A.lifetime) ∧
          (Raises .tokenExpired outcome ↔ t₀ + A.lifetime ≤ t) ∧
          (Raises .invalidToken outcome ↔ t < t₀))) ∧
    ∀ (A : Settings) (now : Instant) (issued : IssuedToken),
      issue A userId (.ok now) = .ok issued →
      validate room A (.ok now) (some ("Bearer " ++ issued.token)) = .ok userId := by
  constructor
  · intro A B algorithm t₀ t issued known usable issues
    obtain ⟨other, named, w, cutUp, outcome⟩ :=
      validate_issued known usable floatFree regular fits issues (.ofSeconds t)
    refine ⟨w, cutUp, ?_⟩
    rw [Instant.seconds_ofSeconds, Instant.isBefore_ofSeconds, Instant.isBefore_ofSeconds] at outcome
    have positive := A.lifetime_pos
    dsimp only
    rw [outcome, named, known]
    refine ⟨fun differ => ?_, fun agree differ => ?_, fun agree same => ?_⟩
    · have other_ne : other ≠ algorithm := fun same => differ (congrArg Algorithm.text same)
      rw [if_pos other_ne, raises_refused_iff, kind_invalid]
    · obtain rfl := Algorithm.text_injective agree
      rw [if_neg (not_not_intro rfl), if_pos differ, raises_refused_iff, kind_invalid]
    · obtain rfl := Algorithm.text_injective agree
      rw [if_neg (not_not_intro rfl), if_neg (not_not_intro same)]
      by_cases early : t < t₀
      · rw [if_pos (decide_eq_true early)]
        simp [raises_refused_iff, kind_invalid]
        omega
      · rw [if_neg (by simpa using early)]
        by_cases soon : t < t₀ + A.lifetime
        · rw [if_pos (decide_eq_true soon)]
          simp [not_raises_ok]
          omega
        · rw [if_neg (by simpa using soon)]
          simp [raises_refused_iff, kind_expired]
          omega
  · intro A now issued issues
    obtain ⟨algorithm, known, usable, -⟩ := issue_eq_ok_iff.mp issues
    obtain ⟨other, named, w, -, outcome⟩ :=
      validate_issued known usable floatFree regular fits issues now
    obtain rfl := Algorithm.text_injective (named.symm.trans known)
    have positive := A.lifetime_pos
    have begun : now.isBefore now.seconds = false := by
      unfold Instant.isBefore Instant.seconds
      simp
      omega
    have soon : now.isBefore (now.seconds + A.lifetime) = true := by
      unfold Instant.isBefore Instant.seconds
      simp
      omega
    simpa [begun, soon] using outcome

/-! ### Two installations -/

def issuingSettings : Settings where
  secret := "a shared secret"
  algorithm := "HS256"
  lifetime := 1200
  authenticationPath := "/tokens"
  authenticationMethod := .post
  iamEnabled := false
  iamPath := "/permissions"
  iamMethod := .get
  exemptPaths := []
  secret_ne := by decide
  lifetime_pos := by decide
  authenticationPath_absolute := by decide
  iamPath_absolute := by decide

/-- An installation with the same secret, whose own tokens last a minute. -/
def acceptingSettings : Settings :=
  { issuingSettings with lifetime := 60, lifetime_pos := by decide }

/-- A text that starts like no value is no document. -/
theorem readWithin_of_scalar_none {most room : Nat} {c : Char} {cs : List Char}
    (solid : Json.isGap c = false) (other : c ≠ '"' ∧ c ≠ '[' ∧ c ≠ '\x7b')
    (nothing : Json.scalar? (c :: cs) = none) :
    Json.readWithin most room (c :: cs) = .error (.malformed .expectingValue (cs.length + 1)) := by
  have fails : ∀ s, s = c :: cs → Json.readValue most room s =
      .error (.malformed .expectingValue (cs.length + 1)) := by
    rintro s rfl
    rw [Json.readValue_scalar most room other, Json.readScalar, nothing]
    rfl
  rw [Json.readWithin, fails _ (Json.skipGap_cons solid cs)]

/-- A plain word is a secret that signs. -/
theorem checkSecret_issuingSettings : checkSecret issuingSettings.secret = .ok () := by
  have ascii : Text.IsAscii issuingSettings.secret.toList := by decide
  have plain : SecretShape.isKeyDocument (Utf8.encode issuingSettings.secret.toList) = false := by
    have word : issuingSettings.secret.toList = 'a' :: " shared secret".toList := by decide
    rw [SecretShape.isKeyDocument, Json.documentText_ascii ascii]
    dsimp only
    rw [word, readWithin_of_scalar_none (by decide) (by decide) (by decide)]
  rw [checkSecret, plain]
  decide

def travellingUser : Json :=
  .obj [("name", .str "Zoë 😀"), ("tenants", .arr [.int 7, .null])]

/-- What the one installation issues at the second 100, the other accepts at the second 500, though
not at the second 1300, and not at the second 99. -/
theorem validate_issue_iff_travellingUser :
    (travellingUser.isFloatFree = true ∧ travellingUser.isRegular = true ∧
      Json.maxDepth ≤ Json.maxDepth ∧ checkSecret acceptingSettings.secret = .ok ()) ∧
    ∃ issued, issue issuingSettings travellingUser (.ok (.ofSeconds 100)) = .ok issued ∧
      validate Json.maxDepth acceptingSettings (.ok (.ofSeconds 500))
        (some ("Bearer " ++ issued.token)) = .ok travellingUser ∧
      Raises .tokenExpired (validate Json.maxDepth acceptingSettings (.ok (.ofSeconds 1300))
        (some ("Bearer " ++ issued.token))) ∧
      Raises .invalidToken (validate Json.maxDepth acceptingSettings (.ok (.ofSeconds 99))
        (some ("Bearer " ++ issued.token))) := by
  have floatFree : travellingUser.isFloatFree = true := by decide
  have regular : travellingUser.isRegular = true := by decide
  have fits : Json.maxDepth ≤ Json.maxDepth := Nat.le_refl _
  have usable : checkSecret acceptingSettings.secret = .ok () := checkSecret_issuingSettings
  obtain ⟨issued, issues⟩ : ∃ issued, issue issuingSettings travellingUser (.ok (.ofSeconds 100)) =
      .ok issued :=
    ⟨_, issue_eq_ok_iff.mpr
      ⟨.hs256, rfl, checkSecret_issuingSettings, by decide, by decide, by decide, rfl⟩⟩
  have passes := fun t => (validate_issue_iff Json.maxDepth travellingUser floatFree regular fits).1
    issuingSettings acceptingSettings .hs256 100 t issued rfl usable issues
  obtain ⟨_, -, -, -, during⟩ := passes 500
  obtain ⟨_, -, -, -, late⟩ := passes 1300
  obtain ⟨_, -, -, -, early⟩ := passes 99
  refine ⟨⟨floatFree, regular, fits, usable⟩, issued, issues, ?_, ?_, ?_⟩
  · exact (during rfl rfl).1.mpr ⟨by decide, by decide⟩
  · exact (late rfl rfl).2.1.mpr (by decide)
  · exact (early rfl rfl).2.2.mpr (by decide)

end Token

end AccessControl
