import AccessControl.Proofs.Field.Faults
import AccessControl.Settings.Build

/-!
# Settings one by one

What a setting comes to depends on what it is given and on nothing else. `Setting.Takes*` say which
value a setting has for what it is given, apart from how that is checked, and `SettingName.Accepts`
that there is one:

* `Setting.secret_eq_ok_iff`, `lifetime_eq_ok_iff` and the others: the outcome of a setting is a
  value exactly when the setting takes it;
* `SettingName.faults_eq_nil_iff`, `place_of_mem_faults`: a setting has faults exactly when it does
  not accept what it is given, and they are about no other setting;
* `SettingOutcomes.settings_eq_ok_iff`, `errors_of_settings_eq_error`: the outcomes are put together
  into settings, or into the faults of all.
-/
namespace AccessControl

/-- The value of a setting is its default where nothing is given, else what the given one is read
as. -/
def Chosen {α : Type} (given : Option Json) (byDefault : α) (reads : Json → α → Prop) (a : α) :
    Prop :=
  match given with
  | none => a = byDefault
  | some value => reads value a

theorem Method.ofText?_eq_some_iff {word : String} {m : Method} :
    ofText? word = some m ↔ word = m.text := by
  constructor
  · intro found
    have same := List.find?_some found
    exact (of_decide_eq_true same).symm
  · rintro rfl
    cases m <;> rfl

namespace Setting

/-- The secret has to be given, and is a text that is not empty. -/
def TakesSecret (given : Option Json) (s : String) : Prop :=
  given = some (.str s) ∧ s ≠ ""

def TakesText (byDefault : String) (given : Option Json) (s : String) : Prop :=
  Chosen given byDefault (fun value s => value = .str s) s

def TakesLifetime (byDefault : Int) (given : Option Json) (n : Int) : Prop :=
  Chosen given byDefault (fun value n => Field.whole value = .ok n) n ∧ 0 < n

/-- A text that starts at the root. -/
def TakesPath (byDefault : String) (given : Option Json) (s : String) : Prop :=
  Chosen given byDefault (fun value s => value = .str s) s ∧ IsAbsolute s

/-- A text that is one of the methods in capitals. -/
def TakesMethod (byDefault : Method) (given : Option Json) (m : Method) : Prop :=
  Chosen given byDefault (fun value m => ∃ s, value = .str s ∧ Text.upper s = m.text) m

def TakesTruth (byDefault : Bool) (given : Option Json) (b : Bool) : Prop :=
  Chosen given byDefault (fun value b => Field.truth value = .ok b) b

def TakesTexts (byDefault : List String) (given : Option Json) (texts : List String) : Prop :=
  Chosen given byDefault (fun value texts => value = .ofTexts texts) texts

/-! ### Checks -/

theorem require_eq_ok_iff {α : Type} {p : α → Prop} [DecidablePred p] {message : α → String}
    {value : α} {a : {a : α // p a}} : require p message value = .ok a ↔ value = a.val := by
  unfold require
  split
  · rw [Except.ok.injEq, Subtype.ext_iff]
  · rename_i broken
    refine iff_of_false nofun fun same => broken ?_
    rw [same]
    exact a.property

theorem tells_require {α : Type} (p : α → Prop) [DecidablePred p] (message : α → String)
    (value : α) : (require p message value).Tells := by
  unfold require
  split
  · exact Checked.tells_ok _
  · exact Checked.tells_fault _

theorem bind_require_eq_ok_iff {α : Type} {p : α → Prop} [DecidablePred p] {message : α → String}
    {x : Checked α} {a : {a : α // p a}} :
    x >>= require p message = .ok a ↔ x = .ok a.val := by
  rw [bind_eq_ok_iff]
  constructor
  · rintro ⟨value, fits, kept⟩
    rw [fits, require_eq_ok_iff.mp kept]
  · intro fits
    exact ⟨a.val, fits, require_eq_ok_iff.mpr rfl⟩

theorem method_eq_ok_iff {value : Json} {m : Method} :
    method value = .ok m ↔ ∃ s, value = .str s ∧ Text.upper s = m.text := by
  have octets (m : Method) : Text.isEncodable m.text = true := by cases m <;> decide
  cases value with
  | str s =>
    rw [method, (Field.reads_word Method.ofText?_eq_some_iff octets _).eq_ok_iff, Json.str.injEq]
    simp
  | _ => simp [method, Field.word, Checked.fault]

theorem tells_method (value : Json) : (method value).Tells := by
  unfold method
  split <;> exact Field.tells_word _ _

/-! ### Outcomes -/

/-- A value that has to follow a rule is there when there is one that does follow it. -/
theorem exists_val_iff {α : Type} {p q : α → Prop} {r : {a : α // p a} → Prop}
    (same : ∀ a, r a ↔ q a.val) (also : ∀ a, q a → p a) : (∃ a, r a) ↔ ∃ a, q a := by
  constructor
  · rintro ⟨a, holds⟩
    exact ⟨a.val, (same a).mp holds⟩
  · rintro ⟨a, holds⟩
    exact ⟨⟨a, also a holds⟩, (same _).mpr holds⟩

section

open SettingOutcomes

variable {α : Type} {name : SettingName} {check : Json → Checked α} {given : Option Json}

theorem outcome_eq_ok_iff {byDefault : α} {reads : Json → α → Prop}
    (fits : ∀ value a, check value = .ok a ↔ reads value a) {a : α} :
    outcome name check (.ok byDefault) given = .ok a ↔ Chosen given byDefault reads a := by
  unfold outcome
  rw [Checked.under_eq_ok_iff]
  cases given with
  | none =>
    change Except.ok byDefault = Except.ok a ↔ a = byDefault
    rw [Except.ok.injEq, eq_comm]
  | some value => exact fits value a

theorem tells_outcome {byDefault : Checked α} (tells : ∀ value, (check value).Tells)
    (also : byDefault.Tells) : (outcome name check byDefault given).Tells := by
  refine Checked.Tells.under ?_ _
  cases given with
  | none => exact also
  | some value => exact tells value

theorem place_of_mem_outcome {byDefault : Checked α} {e : FieldError}
    (listed : e ∈ (outcome name check byDefault given).errors) :
    e.place.head? = some (.member name.text) := by
  unfold outcome at listed
  exact Checked.head?_place_of_mem_under listed

theorem secret_eq_ok_iff {s : {s : String // s ≠ ""}} :
    outcome .secret secret (.fault .missing) given = .ok s ↔ TakesSecret given s := by
  unfold outcome
  rw [Checked.under_eq_ok_iff, TakesSecret, and_iff_left s.property]
  cases given with
  | none => exact iff_of_false nofun nofun
  | some value =>
    change Field.text value >>= _ = _ ↔ _
    rw [bind_require_eq_ok_iff, (Field.reads_text value).eq_ok_iff, Option.some.injEq]

theorem text_eq_ok_iff {byDefault s : String} :
    outcome name Field.text (.ok byDefault) given = .ok s ↔ TakesText byDefault given s :=
  outcome_eq_ok_iff fun value _ => Field.reads_text value _

theorem subtype_eq_ok_iff {p : α → Prop} [DecidablePred p] {message : α → String} {byDefault : α}
    {also : p byDefault} {reads : Json → α → Prop}
    (fits : ∀ value a, check value = .ok a ↔ reads value a) {a : {a : α // p a}} :
    outcome name (fun value => check value >>= require p message) (.ok ⟨byDefault, also⟩) given =
      .ok a ↔ Chosen given byDefault reads a ∧ p a := by
  unfold outcome
  rw [Checked.under_eq_ok_iff, and_iff_left a.property]
  cases given with
  | none =>
    change Except.ok _ = Except.ok _ ↔ a.val = byDefault
    rw [Except.ok.injEq, Subtype.ext_iff, eq_comm]
  | some value => exact bind_require_eq_ok_iff.trans (fits value a)

theorem lifetime_eq_ok_iff {byDefault : Int} {also : 0 < byDefault} {n : {n : Int // 0 < n}} :
    outcome name lifetime (.ok ⟨byDefault, also⟩) given = .ok n ↔
      TakesLifetime byDefault given n :=
  subtype_eq_ok_iff fun _ _ => Iff.rfl

theorem path_eq_ok_iff {byDefault : String} {also : IsAbsolute byDefault}
    {s : {s : String // IsAbsolute s}} :
    outcome name path (.ok ⟨byDefault, also⟩) given = .ok s ↔ TakesPath byDefault given s :=
  subtype_eq_ok_iff fun value _ => Field.reads_text value _

theorem outcome_method_eq_ok_iff {byDefault m : Method} :
    outcome name method (.ok byDefault) given = .ok m ↔ TakesMethod byDefault given m :=
  outcome_eq_ok_iff fun _ _ => method_eq_ok_iff

theorem truth_eq_ok_iff {byDefault b : Bool} :
    outcome name Field.truth (.ok byDefault) given = .ok b ↔ TakesTruth byDefault given b :=
  outcome_eq_ok_iff fun _ _ => Iff.rfl

theorem texts_eq_ok_iff {byDefault texts : List String} :
    outcome name Field.texts (.ok byDefault) given = .ok texts ↔
      TakesTexts byDefault given texts :=
  outcome_eq_ok_iff fun value _ => Field.reads_texts value _

end

end Setting

theorem default_lifetime_pos : (0 : Int) < 3600 := by decide

theorem default_authenticationPath_absolute : IsAbsolute "/authenticate" := by decide +kernel

theorem default_iamPath_absolute : IsAbsolute "/authz/iam" := by decide +kernel

def SettingOutcomes.ofGiven (given : SettingName → Option Json) : SettingOutcomes where
  secret := outcome .secret Setting.secret (.fault .missing) (given .secret)
  algorithm := outcome .algorithm Field.text (.ok "HS256") (given .algorithm)
  lifetime := outcome .lifetime Setting.lifetime (.ok ⟨3600, default_lifetime_pos⟩) (given .lifetime)
  authenticationPath := outcome .authenticationPath Setting.path
    (.ok ⟨"/authenticate", default_authenticationPath_absolute⟩) (given .authenticationPath)
  authenticationMethod := outcome .authenticationMethod Setting.method (.ok .post)
    (given .authenticationMethod)
  iamEnabled := outcome .iamEnabled Field.truth (.ok true) (given .iamEnabled)
  iamPath := outcome .iamPath Setting.path (.ok ⟨"/authz/iam", default_iamPath_absolute⟩)
    (given .iamPath)
  iamMethod := outcome .iamMethod Setting.method (.ok .get) (given .iamMethod)
  exemptPaths := outcome .exemptPaths Field.texts (.ok []) (given .exemptPaths)

/-! ### One setting -/

namespace SettingName

open Setting SettingOutcomes

def all : List SettingName :=
  [.secret, .algorithm, .lifetime, .authenticationPath, .authenticationMethod, .iamEnabled,
    .iamPath, .iamMethod, .exemptPaths]

/-- There is a value that the setting takes for what it is given. -/
def Accepts (name : SettingName) (given : Option Json) : Prop :=
  match name with
  | .secret => ∃ s, TakesSecret given s
  | .algorithm => ∃ s, TakesText "HS256" given s
  | .lifetime => ∃ n, TakesLifetime 3600 given n
  | .authenticationPath => ∃ s, TakesPath "/authenticate" given s
  | .authenticationMethod => ∃ m, TakesMethod .post given m
  | .iamEnabled => ∃ b, TakesTruth true given b
  | .iamPath => ∃ s, TakesPath "/authz/iam" given s
  | .iamMethod => ∃ m, TakesMethod .get given m
  | .exemptPaths => ∃ texts, TakesTexts [] given texts

def faults (name : SettingName) (given : Option Json) : List FieldError :=
  let outcomes := ofGiven fun _ => given
  match name with
  | .secret => outcomes.secret.errors
  | .algorithm => outcomes.algorithm.errors
  | .lifetime => outcomes.lifetime.errors
  | .authenticationPath => outcomes.authenticationPath.errors
  | .authenticationMethod => outcomes.authenticationMethod.errors
  | .iamEnabled => outcomes.iamEnabled.errors
  | .iamPath => outcomes.iamPath.errors
  | .iamMethod => outcomes.iamMethod.errors
  | .exemptPaths => outcomes.exemptPaths.errors

variable {name : SettingName} {given : Option Json}

theorem faults_eq_nil_iff : name.faults given = [] ↔ name.Accepts given := by
  have told {α : Type} {check : Json → Checked α} {byDefault : Checked α}
      (tells : ∀ value, (check value).Tells) (also : byDefault.Tells) :
      (outcome name check byDefault given).errors = [] ↔
        ∃ a, outcome name check byDefault given = .ok a :=
    (tells_outcome tells also).errors_eq_nil_iff
  have texts (value : Json) : (Field.texts value).Tells := Field.tells_list Field.tells_text value
  have secrets (value : Json) : (Setting.secret value).Tells :=
    (Field.tells_text value).bind (tells_require _ _)
  have lifetimes (value : Json) : (Setting.lifetime value).Tells :=
    (Field.tells_whole value).bind (tells_require _ _)
  have paths (value : Json) : (path value).Tells :=
    (Field.tells_text value).bind (tells_require _ _)
  cases name with
  | secret =>
    exact (told secrets (Checked.tells_fault _)).trans
      (exists_val_iff (fun _ => secret_eq_ok_iff) fun _ takes => takes.2)
  | algorithm =>
    exact (told Field.tells_text (Checked.tells_ok _)).trans (exists_congr fun _ => text_eq_ok_iff)
  | lifetime =>
    exact (told lifetimes (Checked.tells_ok _)).trans
      (exists_val_iff (fun _ => lifetime_eq_ok_iff) fun _ takes => takes.2)
  | authenticationPath =>
    exact (told paths (Checked.tells_ok _)).trans
      (exists_val_iff (fun _ => path_eq_ok_iff) fun _ takes => takes.2)
  | authenticationMethod =>
    exact (told tells_method (Checked.tells_ok _)).trans
      (exists_congr fun _ => outcome_method_eq_ok_iff)
  | iamEnabled =>
    exact (told Field.tells_truth (Checked.tells_ok _)).trans
      (exists_congr fun _ => truth_eq_ok_iff)
  | iamPath =>
    exact (told paths (Checked.tells_ok _)).trans
      (exists_val_iff (fun _ => path_eq_ok_iff) fun _ takes => takes.2)
  | iamMethod =>
    exact (told tells_method (Checked.tells_ok _)).trans
      (exists_congr fun _ => outcome_method_eq_ok_iff)
  | exemptPaths =>
    exact (told texts (Checked.tells_ok _)).trans (exists_congr fun _ => texts_eq_ok_iff)

theorem place_of_mem_faults {e : FieldError} (listed : e ∈ name.faults given) :
    e.place.head? = some (.member name.text) := by
  cases name <;> exact place_of_mem_outcome listed

end SettingName

/-! ### All settings -/

namespace SettingOutcomes

variable {o : SettingOutcomes}

theorem errors_ofGiven (given : SettingName → Option Json) :
    (ofGiven given).errors = SettingName.all.flatMap fun name => name.faults (given name) := by
  simp only [errors, SettingName.all, List.flatMap_cons, List.flatMap_nil, List.append_nil,
    List.append_assoc]
  rfl

theorem settings_eq_ok_iff {s : Settings} :
    o.settings = .ok s ↔
      o.secret = .ok ⟨s.secret, s.secret_ne⟩ ∧ o.algorithm = .ok s.algorithm ∧
        o.lifetime = .ok ⟨s.lifetime, s.lifetime_pos⟩ ∧
        o.authenticationPath = .ok ⟨s.authenticationPath, s.authenticationPath_absolute⟩ ∧
        o.authenticationMethod = .ok s.authenticationMethod ∧ o.iamEnabled = .ok s.iamEnabled ∧
        o.iamPath = .ok ⟨s.iamPath, s.iamPath_absolute⟩ ∧ o.iamMethod = .ok s.iamMethod ∧
        o.exemptPaths = .ok s.exemptPaths := by
  obtain ⟨secret, algorithm, lifetime, authenticationPath, authenticationMethod, iamEnabled,
    iamPath, iamMethod, exemptPaths⟩ := o
  constructor
  · intro put
    unfold settings at put
    split at put
    · rename_i outcomes
      cases outcomes
      cases put
      exact ⟨rfl, rfl, rfl, rfl, rfl, rfl, rfl, rfl, rfl⟩
    · cases put
  · rintro ⟨rfl, rfl, rfl, rfl, rfl, rfl, rfl, rfl, rfl⟩
    rfl

theorem errors_of_settings_eq_error {es : List FieldError} (refused : o.settings = .error es) :
    o.errors = es := by
  unfold settings at refused
  split at refused
  · cases refused
  · exact Except.error.inj refused

end SettingOutcomes

end AccessControl
