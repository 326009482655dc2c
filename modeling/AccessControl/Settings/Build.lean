import AccessControl.Field.Basic
import AccessControl.Json.Reader
import AccessControl.Settings.Basic
import AccessControl.Text.Case

/-!
# Building settings

Each setting comes from an argument if there is one, else from its environment variable, else from
its default. Names are matched without regard to letter case. Every setting is checked on its own,
and either all fit or the faults of those that do not are reported in order.
-/
namespace AccessControl

inductive SettingName
  | secret
  | algorithm
  | lifetime
  | authenticationPath
  | authenticationMethod
  | iamEnabled
  | iamPath
  | iamMethod
  | exemptPaths
  deriving DecidableEq, Repr

def SettingName.text : SettingName → String
  | .secret => "secret"
  | .algorithm => "jwt_algorithm"
  | .lifetime => "expiration_time_span"
  | .authenticationPath => "authentication_path"
  | .authenticationMethod => "authentication_method"
  | .iamEnabled => "iam_endpoint_enabled"
  | .iamPath => "iam_path"
  | .iamMethod => "iam_method"
  | .exemptPaths => "exempt_paths"

/-- Why settings cannot be built: a list in the environment is not JSON or is nested too deep, or
settings do not fit. -/
inductive SettingsError
  | environment
  | tooDeep
  | invalid (errors : List FieldError)
  deriving DecidableEq, Repr

structure SettingsSource where
  arguments : List (String × Json)
  environment : List (String × String)
  deriving DecidableEq, Repr

namespace SettingsSource

/-- The start of the environment variables, in small letters. -/
def variableStart : String := "authz_"

def find? {α : Type} (name : String) (entries : List (String × α)) : Option α :=
  (entries.find? fun entry => Text.lower entry.1 = name).map Prod.snd

/-- The argument of a setting; of several spellings the first one counts. -/
def argument? (source : SettingsSource) (name : SettingName) : Option Json :=
  find? name.text source.arguments

/-- The environment variable of a setting; of several spellings the last one counts. -/
def fromEnvironment? (source : SettingsSource) (name : SettingName) : Option String :=
  find? (variableStart ++ name.text) source.environment.reverse

/-- What a setting is given: its argument, else its variable as a text. -/
def given? (source : SettingsSource) (name : SettingName) : Option Json :=
  match source.argument? name with
  | some value => some value
  | none => (source.fromEnvironment? name).map .str

/-- The list of exempt paths in the environment, which is JSON; null stands for none given. -/
def exemptList? (source : SettingsSource) : Except SettingsError (Option Json) :=
  match source.fromEnvironment? .exemptPaths with
  | none => .ok none
  | some text =>
    match Json.read text.toList with
    | .ok .null => .ok none
    | .ok value => .ok (some value)
    | .error (.tooDeep _) => .error .tooDeep
    | .error _ => .error .environment

end SettingsSource

/-! The check of each setting. -/
namespace Setting

def require {α : Type} (p : α → Prop) [DecidablePred p] (message : α → String) (value : α) :
    Checked {a : α // p a} :=
  if h : p value then .ok ⟨value, h⟩ else .fault (.rule ("Value error, " ++ message value))

def secret (value : Json) : Checked {s : String // s ≠ ""} :=
  Field.text value >>= require (· ≠ "") fun _ => "Authentication secret must be set"

def lifetime (value : Json) : Checked {n : Int // 0 < n} :=
  Field.whole value >>= require (0 < ·) fun n =>
    "expiration_time_span must be positive, got: " ++ n.repr

def path (value : Json) : Checked {s : String // IsAbsolute s} :=
  Field.text value >>= require IsAbsolute fun s =>
    "Endpoint path must start with '/', got: " ++ Text.lossy s

/-- The method of an endpoint is one of the known ones, letter case aside. -/
def method : Json → Checked Method
  | .str word => Field.word Method.ofText? (.str (Text.upper word))
  | value => Field.word Method.ofText? value

end Setting

structure SettingOutcomes where
  secret : Checked {s : String // s ≠ ""}
  algorithm : Checked String
  lifetime : Checked {n : Int // 0 < n}
  authenticationPath : Checked {s : String // IsAbsolute s}
  authenticationMethod : Checked Method
  iamEnabled : Checked Bool
  iamPath : Checked {s : String // IsAbsolute s}
  iamMethod : Checked Method
  exemptPaths : Checked (List String)

namespace SettingOutcomes

/-- The outcome of one setting: its default where nothing is given. -/
def outcome {α : Type} (name : SettingName) (check : Json → Checked α) (byDefault : Checked α)
    (given : Option Json) : Checked α :=
  Checked.under (.member name.text) <|
    match given with
    | none => byDefault
    | some value => check value

/-- The outcomes of what a source gives, `exempt` being the list in the environment. -/
def ofSource (source : SettingsSource) (exempt : Option Json) : SettingOutcomes where
  secret := outcome .secret Setting.secret (.fault .missing) (source.given? .secret)
  algorithm := outcome .algorithm Field.text (.ok "HS256") (source.given? .algorithm)
  lifetime := outcome .lifetime Setting.lifetime (.ok ⟨3600, by decide⟩) (source.given? .lifetime)
  authenticationPath := outcome .authenticationPath Setting.path
    (.ok ⟨"/authenticate", by decide +kernel⟩) (source.given? .authenticationPath)
  authenticationMethod := outcome .authenticationMethod Setting.method (.ok .post)
    (source.given? .authenticationMethod)
  iamEnabled := outcome .iamEnabled Field.truth (.ok true) (source.given? .iamEnabled)
  iamPath := outcome .iamPath Setting.path (.ok ⟨"/authz/iam", by decide +kernel⟩)
    (source.given? .iamPath)
  iamMethod := outcome .iamMethod Setting.method (.ok .get) (source.given? .iamMethod)
  exemptPaths := outcome .exemptPaths Field.texts (.ok [])
    ((source.argument? .exemptPaths).or exempt)

def errors (o : SettingOutcomes) : List FieldError :=
  o.secret.errors ++ o.algorithm.errors ++ o.lifetime.errors ++ o.authenticationPath.errors ++
    o.authenticationMethod.errors ++ o.iamEnabled.errors ++ o.iamPath.errors ++
    o.iamMethod.errors ++ o.exemptPaths.errors

def settings (o : SettingOutcomes) : Checked Settings :=
  match o with
  | ⟨.ok secret, .ok algorithm, .ok lifetime, .ok authenticationPath, .ok authenticationMethod,
      .ok iamEnabled, .ok iamPath, .ok iamMethod, .ok exemptPaths⟩ =>
    .ok
      { secret := secret.val, algorithm, lifetime := lifetime.val
        authenticationPath := authenticationPath.val, authenticationMethod, iamEnabled
        iamPath := iamPath.val, iamMethod, exemptPaths, secret_ne := secret.property
        lifetime_pos := lifetime.property
        authenticationPath_absolute := authenticationPath.property
        iamPath_absolute := iamPath.property }
  | o => .error o.errors

end SettingOutcomes

def Settings.build (source : SettingsSource) : Except SettingsError Settings :=
  match source.exemptList? with
  | .error e => .error e
  | .ok exempt =>
    match (SettingOutcomes.ofSource source exempt).settings with
    | .ok settings => .ok settings
    | .error errors => .error (.invalid errors)

end AccessControl
