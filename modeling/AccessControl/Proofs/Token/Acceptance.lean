import AccessControl.Proofs.Token.Checks

/-!
# What an accepted header proves

A header is accepted with a user exactly when it holds a token that attests the user: one whose last
segment is the keyed hash of all that stands in front of it, and whose claims are meant for this
library and hold. Every other header is refused; only a token that has no octets is not even that.
-/
namespace AccessControl.Token

/-- A header with a token, its parameters and claims, attests a user at a point in time. -/
structure Attests (room : Nat) (s : Settings) (algorithm : Algorithm) (now : Instant)
    (header : Option String) (w : Written) (parameters claims : List (String × Json))
    (userId : Json) : Prop where
  bearer : ∃ text, header = some text ∧
    text.toList = scheme.toList ++ ' ' :: (w.input ++ '.' :: w.signature)
  encodable : Text.isEncodable (String.ofList (w.input ++ '.' :: w.signature)) = true
  lastPoint : '.' ∉ w.signature
  segments : w.input = w.header ++ '.' :: w.payload ∧ '.' ∉ w.header
  signed : Base64Url.decode w.signature = some (signature algorithm s.secret w.input)
  parameters_read : ∃ bytes, Base64Url.decode w.header = some bytes ∧
    Json.ofDocument room bytes = .ok (.obj parameters)
  algorithm_named : parameters.lookup "alg" = some (.str s.algorithm)
  parameters_hold : checkHeader parameters = .ok ()
  claims_read : ∃ bytes, Base64Url.decode w.payload = some bytes ∧
    Json.ofDocument room bytes = .ok (.obj claims)
  holds : Holds now claims
  user : claims.lookup "userId" = some userId

/-- A payload that is sent apart is never accepted. -/
theorem isUnencoded_of_checkHeader {header : List (String × Json)}
    (hold : checkHeader header = .ok ()) : isUnencoded header = false := by
  obtain ⟨-, later⟩ := check_bind_eq_ok_iff.mp hold
  obtain ⟨-, encoded⟩ := check_bind_eq_ok_iff.mp later
  rw [checkEncoding] at encoded
  split at encoded
  · split at encoded <;> cases encoded
  · rename_i plain
    exact Bool.eq_false_iff.mpr plain

/-- A header is accepted with a user when it attests the user, and not otherwise. -/
theorem validate_eq_ok_iff_attests {room : Nat} {s : Settings} {algorithm : Algorithm}
    (known : s.algorithm = algorithm.text) (usable : checkSecret s.secret = .ok ())
    {now : Instant} {header : Option String} {userId : Json} :
    validate room s (.ok now) header = .ok userId ↔
      ∃ w parameters claims, Attests room s algorithm now header w parameters claims userId := by
  rw [validate_eq_ok_iff]
  constructor
  · rintro ⟨token, claims, held, read, holds, user⟩
    obtain ⟨-, bearer⟩ := ofHeader_eq_ok_iff.mp held
    obtain ⟨encodable, p, parts, hold, named, signed, payload⟩ :=
      (verified_eq_ok_iff known usable).mp read
    obtain ⟨w, cutUp, input, parameters, -, second, third⟩ := partsOf_eq_ok_iff.mp parts
    obtain ⟨⟨rfl, lastPoint⟩, segments⟩ := cut_eq_ok_iff.mp cutUp
    refine ⟨w, p.header, claims, ?_⟩
    exact
      { bearer, encodable, lastPoint, segments, algorithm_named := named, parameters_hold := hold,
        holds, user, parameters_read := parameters, claims_read := ⟨_, second, payload⟩
        signed := by rw [third, signed, input] }
  · rintro ⟨w, parameters, claims, a⟩
    obtain ⟨bytes, second, payload⟩ := a.claims_read
    have cutUp : cut (w.input ++ '.' :: w.signature) = .ok w :=
      cut_eq_ok_iff.mpr ⟨⟨rfl, a.lastPoint⟩, a.segments⟩
    have parts : partsOf room (w.input ++ '.' :: w.signature) =
        .ok ⟨w.input, parameters, bytes, signature algorithm s.secret w.input⟩ := by
      rw [partsOf_eq_ok_iff]
      refine ⟨w, cutUp, rfl, a.parameters_read, fun unencoded => ?_, second, a.signed⟩
      rw [isUnencoded_of_checkHeader a.parameters_hold] at unencoded
      cases unencoded
    have read : verified room s (w.input ++ '.' :: w.signature) = .ok claims :=
      (verified_eq_ok_iff known usable).mpr
        ⟨a.encodable, _, parts, a.parameters_hold, a.algorithm_named, rfl, payload⟩
    have held : ofHeader header = .ok (w.input ++ '.' :: w.signature) :=
      ofHeader_eq_ok_iff.mpr ⟨by simp, a.bearer⟩
    exact ⟨_, claims, held, read, a.holds, a.user⟩

end AccessControl.Token
