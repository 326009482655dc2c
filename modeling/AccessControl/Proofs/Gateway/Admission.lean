import AccessControl.Gateway.Basic

/-!
# What a request is to the gateway

A gateway tells an exempt request by the start of its path, the authentication request by method and
path without regard to letter case, and any other request by its credentials. It compares identities
of requests, which are single texts, so the comparison is one of method and path only where no
method can run into a path.

* `IsMethod`: what may stand as a method, and hence has no blank in its capitals
  (`blank_not_mem_upper`);
* `requestKind_eq_iff`: identities agree exactly when methods and paths do;
* `admission_of_exempt`, `admission_of_authentication`, `admission_of_credentials`: what a request
  is, in the order in which the gateway looks;
* `admission_eq_authentication_iff`: when it is taken for the authentication request.
-/
namespace AccessControl

/-- What may stand as a method: ASCII characters with no blank among them. -/
def IsMethod (word : String) : Prop :=
  ∀ c ∈ word.toList, c.toNat < 0x80 ∧ c ≠ ' '

instance (word : String) : Decidable (IsMethod word) :=
  List.decidableBAll (fun c : Char => c.toNat < 0x80 ∧ c ≠ ' ') word.toList

theorem Method.isMethod (m : Method) : IsMethod m.text := by
  cases m <;> decide

theorem Method.upper_text (m : Method) : Text.upper m.text = m.text := by
  cases m <;> rfl

/-- Of the ASCII characters only the blank has the blank as its capital. -/
theorem toUpper_ne_blank {c : Char} (ascii : c.toNat < 0x80) (other : c ≠ ' ') :
    c.toUpper ≠ ' ' := by
  have table : ∀ n < 0x80, (Char.ofNat n).toUpper = ' ' → Char.ofNat n = ' ' := by decide
  have here := table c.toNat ascii
  rw [Char.ofNat_toNat] at here
  exact mt here other

theorem blank_not_mem_upper {word : String} (method : IsMethod word) :
    ' ' ∉ (Text.upper word).toList := by
  rw [Text.upper, String.toList_ofList, List.mem_flatMap]
  rintro ⟨c, listed, capital⟩
  obtain ⟨ascii, other⟩ := method c listed
  rw [Text.capital, if_pos ascii, List.mem_singleton] at capital
  exact toUpper_ne_blank ascii other capital.symm

/-- Texts that are cut at their first separator agree exactly when both parts do. -/
theorem append_cons_inj {α : Type} {separator : α} {front otherFront back otherBack : List α}
    (free : separator ∉ front) (otherFree : separator ∉ otherFront) :
    front ++ separator :: back = otherFront ++ separator :: otherBack ↔
      front = otherFront ∧ back = otherBack := by
  constructor
  · -- if one front were longer, it would hold the separator that ends the other
    intro same
    obtain ⟨between, longer, rest⟩ | ⟨between, longer, rest⟩ := List.append_eq_append_iff.mp same
    · cases between with
      | nil => simp_all
      | cons c between =>
        obtain ⟨rfl, -⟩ := List.cons.inj rest
        exact absurd (longer ▸ by simp) otherFree
    · cases between with
      | nil => simp_all
      | cons c between =>
        obtain ⟨rfl, -⟩ := List.cons.inj rest
        exact absurd (longer ▸ by simp) free
  · rintro ⟨rfl, rfl⟩
    rfl

theorem toList_requestKind (word path : String) :
    (requestKind word path).toList =
      (Text.upper word).toList ++ ' ' :: (Text.lower path).toList := by
  simp [requestKind, String.toList_append]

/-- Identities agree exactly when the methods do in capitals and the paths in small letters: the
first blank of an identity is the one behind its method. -/
theorem requestKind_eq_iff {word other : String} (method : IsMethod word)
    (otherMethod : IsMethod other) (path otherPath : String) :
    requestKind word path = requestKind other otherPath ↔
      Text.upper word = Text.upper other ∧ Text.lower path = Text.lower otherPath := by
  rw [← String.toList_inj, toList_requestKind, toList_requestKind,
    append_cons_inj (blank_not_mem_upper method) (blank_not_mem_upper otherMethod),
    String.toList_inj, String.toList_inj]

namespace Request

variable {r : Request} {s : Settings} {clock : Clock}

def IsExempt (r : Request) (s : Settings) : Prop :=
  ∃ path ∈ s.exemptPaths, path.toList <+: r.addressPath.toList

instance : Decidable (r.IsExempt s) :=
  inferInstanceAs (Decidable (∃ path ∈ s.exemptPaths, path.toList <+: r.addressPath.toList))

/-- The method is the configured one in any letter case, and so is the path. -/
def IsAuthentication (r : Request) (s : Settings) : Prop :=
  Text.upper r.method = s.authenticationMethod.text ∧
    Text.lower r.addressPath = Text.lower s.authenticationPath

instance : Decidable (r.IsAuthentication s) :=
  inferInstanceAs (Decidable (_ ∧ _))

theorem isUnder_iff : r.isUnder s.exemptPaths = true ↔ r.IsExempt s := by
  unfold isUnder IsExempt
  simp only [List.any_eq_true, List.isPrefixOf_iff_prefix]

theorem kind_eq_iff (method : IsMethod r.method) :
    r.kind = s.authenticationKind ↔ r.IsAuthentication s := by
  unfold kind Settings.authenticationKind IsAuthentication
  rw [requestKind_eq_iff method s.authenticationMethod.isMethod, Method.upper_text]

theorem admission_of_exempt (exempt : r.IsExempt s) : r.admission s clock = .exempt :=
  if_pos (isUnder_iff.mpr exempt)

theorem admission_of_authentication (method : IsMethod r.method) (held : ¬ r.IsExempt s)
    (authentication : r.IsAuthentication s) : r.admission s clock = .authentication := by
  unfold admission
  rw [if_neg (mt isUnder_iff.mp held), if_pos ((kind_eq_iff method).mpr authentication)]

/-- A request that is neither exempt nor the authentication request is what its credentials say. -/
theorem admission_of_credentials (method : IsMethod r.method) (held : ¬ r.IsExempt s)
    (ordinary : ¬ r.IsAuthentication s) :
    r.admission s clock =
      match Token.validate admissionDepth s clock r.credentials? with
      | .ok userId => .user userId
      | .error (.refused refusal) => .refused refusal
      | .error (.broken fault) => .broken fault :=
  (if_neg (mt isUnder_iff.mp held)).trans (if_neg (mt (kind_eq_iff method).mp ordinary))

/-- The authentication request is recognised exactly where no exempt path comes first. -/
theorem admission_eq_authentication_iff (method : IsMethod r.method) :
    r.admission s clock = .authentication ↔ ¬ r.IsExempt s ∧ r.IsAuthentication s := by
  by_cases exempt : r.IsExempt s
  · simp [admission_of_exempt exempt, exempt]
  by_cases authentication : r.IsAuthentication s
  · simp [admission_of_authentication method exempt authentication, exempt, authentication]
  · -- credentials may say many things, but none is that this is the authentication request
    refine iff_of_false ?_ fun both => authentication both.2
    rw [admission_of_credentials method exempt authentication]
    split <;> exact nofun

end Request

end AccessControl
