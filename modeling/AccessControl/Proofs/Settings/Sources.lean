import AccessControl.Proofs.Json.RoundTrip
import AccessControl.Proofs.Settings.Outcomes
import Mathlib.Data.List.Nodup

/-!
# Settings from their sources

What a source gives each setting, and what it builds. `SettingsSource.Gives` says where a setting
comes from without following the search for it, and `Settings.Holds` that every setting of some
settings is taken for what it is given.

* `SettingsSource.gives_iff`: every setting is given one thing, or nothing, when no variable is
  spelled in two ways and the list of exempt paths is readable;
* `Settings.build_eq_ok_iff`, `build_eq_error_iff`: what is built, and what is reported;
* `Settings.build_by_field`: the two together, setting by setting.
-/
namespace AccessControl

namespace SettingsSource

variable {source : SettingsSource} {name : SettingName}

/-- The value is that of the first argument whose name is the setting's but for letter case. -/
def HasArgument (source : SettingsSource) (name : SettingName) (value : Json) : Prop :=
  ∃ spelling before after, source.arguments = before ++ (spelling, value) :: after ∧
    Text.lower spelling = name.text ∧ ∀ earlier ∈ before, Text.lower earlier.1 ≠ name.text

/-- The text is that of a variable whose name is the setting's behind `AUTHZ_` but for letter
case. -/
def HasVariable (source : SettingsSource) (name : SettingName) (text : String) : Prop :=
  ∃ spelling, (spelling, text) ∈ source.environment ∧
    Text.lower spelling = "authz_" ++ name.text

/-- What a setting is given: its argument, and without one its variable. The variable of the exempt
paths is JSON, and gives nothing when it is null. -/
inductive Gives (source : SettingsSource) : SettingName → Option Json → Prop
  | argument {name : SettingName} {value : Json} (given : source.HasArgument name value) :
    Gives source name (some value)
  | text {name : SettingName} {text : String} (bare : ∀ value, ¬ source.HasArgument name value)
    (given : source.HasVariable name text) (plain : name ≠ .exemptPaths) :
    Gives source name (some (.str text))
  | list {text : String} {value : Json} (bare : ∀ value, ¬ source.HasArgument .exemptPaths value)
    (given : source.HasVariable .exemptPaths text) (reads : Json.read text.toList = .ok value)
    (present : value ≠ .null) : Gives source .exemptPaths (some value)
  | null {text : String} (bare : ∀ value, ¬ source.HasArgument .exemptPaths value)
    (given : source.HasVariable .exemptPaths text) (reads : Json.read text.toList = .ok .null) :
    Gives source .exemptPaths none
  | nothing {name : SettingName} (bare : ∀ value, ¬ source.HasArgument name value)
    (unset : ∀ text, ¬ source.HasVariable name text) : Gives source name none

def readList? (text : String) : Option Json :=
  match Json.read text.toList with
  | .ok .null => none
  | .ok value => some value
  | .error _ => none

def ofVariable? (source : SettingsSource) (name : SettingName) : Option Json :=
  if name = .exemptPaths then (source.fromEnvironment? name).bind readList?
  else (source.fromEnvironment? name).map .str

def value? (source : SettingsSource) (name : SettingName) : Option Json :=
  (source.argument? name).or (source.ofVariable? name)

theorem argument?_eq_some_iff {value : Json} :
    source.argument? name = some value ↔ source.HasArgument name value := by
  simp only [argument?, find?, Option.map_eq_some_iff, List.find?_eq_some_iff_append, HasArgument,
    decide_eq_true_eq, Bool.not_eq_true', decide_eq_false_iff_not]
  constructor
  · rintro ⟨⟨spelling, value⟩, ⟨named, before, after, arguments, first⟩, rfl⟩
    exact ⟨spelling, before, after, arguments, named, first⟩
  · rintro ⟨spelling, before, after, arguments, named, first⟩
    exact ⟨(spelling, value), ⟨named, before, after, arguments, first⟩, rfl⟩

theorem fromEnvironment?_eq_some_iff
    (distinct : (source.environment.map fun entry => Text.lower entry.1).Nodup) {text : String} :
    source.fromEnvironment? name = some text ↔ source.HasVariable name text := by
  have alike := List.inj_on_of_nodup_map distinct
  rw [fromEnvironment?, find?, Option.map_eq_some_iff]
  constructor
  · rintro ⟨⟨spelling, text⟩, found, rfl⟩
    have named := List.find?_some found
    exact ⟨spelling, List.mem_reverse.mp (List.mem_of_find?_eq_some found),
      of_decide_eq_true named⟩
  · rintro ⟨spelling, listed, named⟩
    cases found : source.environment.reverse.find? fun entry =>
        Text.lower entry.1 = variableStart ++ name.text with
    | none =>
      have missed := List.find?_eq_none.mp found _ (List.mem_reverse.mpr listed)
      exact absurd (decide_eq_true named) missed
    | some entry =>
      have other := List.find?_some found
      have same : entry = (spelling, text) :=
        alike (List.mem_reverse.mp (List.mem_of_find?_eq_some found)) listed
          ((of_decide_eq_true other).trans named.symm)
      exact ⟨entry, rfl, congrArg Prod.snd same⟩

theorem argument?_eq_none_iff :
    source.argument? name = none ↔ ∀ value, ¬ source.HasArgument name value := by
  rw [Option.eq_none_iff_forall_ne_some]
  exact forall_congr' fun _ => not_congr argument?_eq_some_iff

section

variable (distinct : (source.environment.map fun entry => Text.lower entry.1).Nodup)
  (readable : ∀ text, source.HasVariable .exemptPaths text →
    ∃ value, Json.read text.toList = .ok value)

include distinct

theorem fromEnvironment?_eq_none_iff :
    source.fromEnvironment? name = none ↔ ∀ text, ¬ source.HasVariable name text := by
  rw [Option.eq_none_iff_forall_ne_some]
  exact forall_congr' fun _ => not_congr (fromEnvironment?_eq_some_iff distinct)

include readable

theorem exemptList?_eq : source.exemptList? = .ok (source.ofVariable? .exemptPaths) := by
  unfold exemptList?
  rw [ofVariable?, if_pos rfl]
  cases found : source.fromEnvironment? .exemptPaths with
  | none => rfl
  | some text =>
    obtain ⟨value, reads⟩ := readable text ((fromEnvironment?_eq_some_iff distinct).mp found)
    dsimp only
    rw [Option.bind_some, readList?, reads]
    cases value <;> rfl

theorem gives_value? (name : SettingName) : source.Gives name (source.value? name) := by
  rw [value?]
  cases argument : source.argument? name with
  | some value => exact .argument (argument?_eq_some_iff.mp argument)
  | none =>
    have bare := argument?_eq_none_iff.mp argument
    rw [Option.none_or, ofVariable?]
    cases found : source.fromEnvironment? name with
    | none =>
      have unset := (fromEnvironment?_eq_none_iff distinct).mp found
      rw [Option.bind_none, Option.map_none, ite_self]
      exact .nothing bare unset
    | some text =>
      have given := (fromEnvironment?_eq_some_iff distinct).mp found
      split_ifs with list
      · subst list
        obtain ⟨value, reads⟩ := readable text given
        rw [Option.bind_some, readList?, reads]
        cases value with
        | null => exact .null bare given reads
        | _ => exact .list bare given reads nofun
      · exact .text bare given list

theorem gives_iff {given : Option Json} :
    source.Gives name given ↔ source.value? name = given := by
  constructor
  · intro gives
    cases gives with
    | argument has => rw [value?, argument?_eq_some_iff.mpr has, Option.some_or]
    | text bare has plain =>
      rw [value?, argument?_eq_none_iff.mpr bare, Option.none_or, ofVariable?, if_neg plain,
        (fromEnvironment?_eq_some_iff distinct).mpr has, Option.map_some]
    | list bare has reads present =>
      rw [value?, argument?_eq_none_iff.mpr bare, Option.none_or, ofVariable?, if_pos rfl,
        (fromEnvironment?_eq_some_iff distinct).mpr has, Option.bind_some, readList?, reads]
      split
      · cases ‹_›; exact absurd rfl present
      · cases ‹_›; rfl
      · cases ‹_›
    | null bare has reads =>
      rw [value?, argument?_eq_none_iff.mpr bare, Option.none_or, ofVariable?, if_pos rfl,
        (fromEnvironment?_eq_some_iff distinct).mpr has, Option.bind_some, readList?, reads]
    | nothing bare unset =>
      rw [value?, argument?_eq_none_iff.mpr bare, Option.none_or, ofVariable?,
        (fromEnvironment?_eq_none_iff distinct).mpr unset, Option.bind_none, Option.map_none,
        ite_self]
  · rintro rfl
    exact gives_value? distinct readable name

end

/-- A setting other than the exempt paths has its variable as a text. -/
theorem given?_eq (plain : name ≠ .exemptPaths) : source.given? name = source.value? name := by
  rw [given?, value?, ofVariable?, if_neg plain]
  cases source.argument? name <;> rfl

end SettingsSource

/-! ### What is built -/

namespace Settings

open Setting

/-- Every setting is taken for what it is given. -/
structure Holds (given : SettingName → Option Json) (s : Settings) : Prop where
  secret : TakesSecret (given .secret) s.secret
  algorithm : TakesText "HS256" (given .algorithm) s.algorithm
  lifetime : TakesLifetime 3600 (given .lifetime) s.lifetime
  authenticationPath : TakesPath "/authenticate" (given .authenticationPath) s.authenticationPath
  authenticationMethod : TakesMethod .post (given .authenticationMethod) s.authenticationMethod
  iamEnabled : TakesTruth true (given .iamEnabled) s.iamEnabled
  iamPath : TakesPath "/authz/iam" (given .iamPath) s.iamPath
  iamMethod : TakesMethod .get (given .iamMethod) s.iamMethod
  exemptPaths : TakesTexts [] (given .exemptPaths) s.exemptPaths

theorem exists_holds_iff {given : SettingName → Option Json} :
    (∃ s, Holds given s) ↔ ∀ name : SettingName, name.Accepts (given name) := by
  constructor
  · rintro ⟨s, holds⟩ name
    cases name with
    | secret => exact ⟨_, holds.secret⟩
    | algorithm => exact ⟨_, holds.algorithm⟩
    | lifetime => exact ⟨_, holds.lifetime⟩
    | authenticationPath => exact ⟨_, holds.authenticationPath⟩
    | authenticationMethod => exact ⟨_, holds.authenticationMethod⟩
    | iamEnabled => exact ⟨_, holds.iamEnabled⟩
    | iamPath => exact ⟨_, holds.iamPath⟩
    | iamMethod => exact ⟨_, holds.iamMethod⟩
    | exemptPaths => exact ⟨_, holds.exemptPaths⟩
  · intro accepts
    obtain ⟨secret, takesSecret⟩ := accepts .secret
    obtain ⟨algorithm, takesAlgorithm⟩ := accepts .algorithm
    obtain ⟨lifetime, takesLifetime⟩ := accepts .lifetime
    obtain ⟨authenticationPath, takesPath⟩ := accepts .authenticationPath
    obtain ⟨authenticationMethod, takesMethod⟩ := accepts .authenticationMethod
    obtain ⟨iamEnabled, takesTruth⟩ := accepts .iamEnabled
    obtain ⟨iamPath, takesIamPath⟩ := accepts .iamPath
    obtain ⟨iamMethod, takesIamMethod⟩ := accepts .iamMethod
    obtain ⟨exemptPaths, takesTexts⟩ := accepts .exemptPaths
    exact ⟨⟨secret, algorithm, lifetime, authenticationPath, authenticationMethod, iamEnabled,
        iamPath, iamMethod, exemptPaths, takesSecret.2, takesLifetime.2, takesPath.2,
        takesIamPath.2⟩,
      ⟨takesSecret, takesAlgorithm, takesLifetime, takesPath, takesMethod, takesTruth,
        takesIamPath, takesIamMethod, takesTexts⟩⟩

end Settings

namespace SettingOutcomes

open SettingsSource

theorem ofSource_eq (source : SettingsSource) :
    ofSource source (source.ofVariable? .exemptPaths) = ofGiven source.value? := by
  have plain (name : SettingName) (other : name ≠ .exemptPaths) :
      source.given? name = source.value? name := given?_eq other
  rw [ofSource, plain .secret nofun, plain .algorithm nofun, plain .lifetime nofun,
    plain .authenticationPath nofun, plain .authenticationMethod nofun, plain .iamEnabled nofun,
    plain .iamPath nofun, plain .iamMethod nofun]
  rfl

theorem settings_ofGiven_eq_ok_iff {given : SettingName → Option Json} {s : Settings} :
    (ofGiven given).settings = .ok s ↔ s.Holds given := by
  rw [settings_eq_ok_iff]
  simp only [ofGiven, Setting.secret_eq_ok_iff, Setting.text_eq_ok_iff, Setting.lifetime_eq_ok_iff,
    Setting.path_eq_ok_iff, Setting.outcome_method_eq_ok_iff, Setting.truth_eq_ok_iff,
    Setting.texts_eq_ok_iff]
  -- the two say the same, one in a row and one field by field
  constructor
  · rintro ⟨secret, algorithm, lifetime, path, method, enabled, iamPath, iamMethod, exempt⟩
    exact ⟨secret, algorithm, lifetime, path, method, enabled, iamPath, iamMethod, exempt⟩
  · rintro ⟨secret, algorithm, lifetime, path, method, enabled, iamPath, iamMethod, exempt⟩
    exact ⟨secret, algorithm, lifetime, path, method, enabled, iamPath, iamMethod, exempt⟩

end SettingOutcomes

namespace Settings

open SettingsSource SettingOutcomes

section

variable {source : SettingsSource}
  (distinct : (source.environment.map fun entry => Text.lower entry.1).Nodup)
  (readable : ∀ text, source.HasVariable .exemptPaths text →
    ∃ value, Json.read text.toList = .ok value)

include distinct readable

theorem build_eq_ok_iff {s : Settings} : build source = .ok s ↔ s.Holds source.value? := by
  rw [build, exemptList?_eq distinct readable, ← settings_ofGiven_eq_ok_iff, ← ofSource_eq]
  dsimp only
  split
  · rename_i put
    rw [put, Except.ok.injEq, Except.ok.injEq]
  · rename_i refused
    rw [refused]
    exact iff_of_false nofun nofun

theorem build_eq_error_iff {e : SettingsError} :
    build source = .error e ↔
      (∃ name : SettingName, ¬ name.Accepts (source.value? name)) ∧
        e = .invalid (SettingName.all.flatMap fun name => name.faults (source.value? name)) := by
  have accepted {s : Settings} := build_eq_ok_iff (s := s) distinct readable
  rw [← not_forall, ← exists_holds_iff, ← errors_ofGiven]
  cases built : build source with
  | ok s =>
    exact iff_of_false nofun fun refused => refused.1 ⟨s, accepted.mp built⟩
  | error other =>
    have unheld : ¬ ∃ s, Holds source.value? s := by
      rintro ⟨s, holds⟩
      have fits := accepted.mpr holds
      rw [built] at fits
      cases fits
    rw [and_iff_right unheld, Except.error.injEq, ← ofSource_eq]
    rw [build, exemptList?_eq distinct readable] at built
    dsimp only at built
    split at built
    · cases built
    · rename_i refused
      rw [errors_of_settings_eq_error refused, ← Except.error.inj built, eq_comm]

end

/-- What each setting is given is said by the sources alone: its first argument, letter case aside,
else its variable, else nothing. Settings are built exactly when every setting accepts what it is
given, and each then has the value that it takes; else the faults of the settings that do not are
reported, in order and without any about others. All that is built is safe to run with. -/
theorem build_by_field {source : SettingsSource}
    (distinct : (source.environment.map fun entry => Text.lower entry.1).Nodup)
    (readable : ∀ text, source.HasVariable .exemptPaths text →
      ∃ value, Json.read text.toList = .ok value) :
    (∀ name given, source.Gives name given ↔ source.value? name = given) ∧
    (∀ s, build source = .ok s ↔ s.Holds source.value?) ∧
    ((∃ s, build source = .ok s) ↔
      ∀ name : SettingName, name.Accepts (source.value? name)) ∧
    (∀ e, build source = .error e ↔
      (∃ name : SettingName, ¬ name.Accepts (source.value? name)) ∧
        e = .invalid (SettingName.all.flatMap fun name => name.faults (source.value? name))) ∧
    (∀ (name : SettingName) (given : Option Json),
      (name.faults given = [] ↔ name.Accepts given) ∧
        ∀ e ∈ name.faults given, e.place.head? = some (.member name.text)) ∧
    (∀ s, build source = .ok s →
      s.secret ≠ "" ∧ 0 < s.lifetime ∧ IsAbsolute s.authenticationPath ∧ IsAbsolute s.iamPath ∧
        ∀ m ∈ [s.authenticationMethod, s.iamMethod],
          m.text ∈ ["GET", "POST", "PUT", "PATCH", "DELETE", "HEAD", "OPTIONS"]) := by
  refine ⟨fun name given => gives_iff distinct readable,
    fun s => build_eq_ok_iff distinct readable, ?_,
    fun e => build_eq_error_iff distinct readable,
    fun name given => ⟨SettingName.faults_eq_nil_iff, fun e => SettingName.place_of_mem_faults⟩,
    fun s _ => ⟨s.secret_ne, s.lifetime_pos, s.authenticationPath_absolute, s.iamPath_absolute,
      fun m _ => ?_⟩⟩
  · rw [← exists_holds_iff]
    exact exists_congr fun s => build_eq_ok_iff distinct readable
  · cases m <;> decide

/-- An argument, a variable in mixed letters that does not fit, and a readable list. -/
def mixedSource : SettingsSource where
  arguments := [("Secret", .str "s3cret")]
  environment := [("authz_IAM_method", "fetch"),
    ("AUTHZ_EXEMPT_PATHS", (Json.ofTexts ["/health"]).compact)]

theorem build_mixedSource :
    (mixedSource.environment.map fun entry => Text.lower entry.1).Nodup ∧
      mixedSource.value? .exemptPaths = some (.ofTexts ["/health"]) ∧
      build mixedSource = .error (.invalid [⟨[.member "iam_method"], .unknownWord⟩]) := by
  have distinct : (mixedSource.environment.map fun entry => Text.lower entry.1).Nodup := by
    decide +kernel
  have reads : Json.read (Json.ofTexts ["/health"]).compact.toList =
      .ok (.ofTexts ["/health"]) := by
    rw [Json.compact, String.toList_ofList]
    exact Json.readWithin_write rfl rfl (by decide) (by decide)
  have readable (text : String) (has : mixedSource.HasVariable .exemptPaths text) :
      ∃ value, Json.read text.toList = .ok value := by
    obtain ⟨spelling, listed, named⟩ := has
    rw [mixedSource, List.mem_pair, Prod.mk.injEq, Prod.mk.injEq] at listed
    obtain ⟨rfl, -⟩ | ⟨-, rfl⟩ := listed
    · exact absurd named (by decide +kernel)
    · exact ⟨_, reads⟩
  obtain ⟨gives, -, -, refused, -, -⟩ := build_by_field distinct readable
  have list : mixedSource.value? .exemptPaths = some (.ofTexts ["/health"]) :=
    (gives _ _).mp (.list (SettingsSource.argument?_eq_none_iff.mp rfl)
      ⟨_, List.mem_cons_of_mem _ (List.mem_cons_self ..), rfl⟩ reads nofun)
  refine ⟨distinct, list, (refused _).mpr ⟨⟨.iamMethod, ?_⟩, ?_⟩⟩
  · rw [← SettingName.faults_eq_nil_iff]
    exact nofun
  · simp only [SettingName.all, List.flatMap_cons, list]
    rfl

end Settings

/-! ### Names in several spellings, and lists that are nested too deep -/

namespace Json

def lists : Nat → Json
  | 0 => .arr []
  | n + 1 => .arr [lists n]

theorem exists_write_lists_eq_cons (n : Nat) (rest : List Char) :
    ∃ cs, write .compact (lists n) ++ rest = '[' :: cs := by
  cases n <;> exact ⟨_, rfl⟩

theorem readValue_write_lists (most room : Nat) (rest : List Char) :
    readValue most room (write .compact (lists room) ++ rest) = .error (.tooDeep .array) := by
  induction room generalizing rest with
  | zero => rw [lists, write, List.cons_append, List.cons_append, readValue, if_pos rfl]
  | succ room ih =>
    have front : write .compact (lists (room + 1)) ++ rest =
        '[' :: (write .compact (lists room) ++ ']' :: rest) := by
      rw [lists, write, writeItems, List.cons_append, List.cons_append, List.append_assoc]
      rfl
    obtain ⟨cs, inner⟩ := exists_write_lists_eq_cons room (']' :: rest)
    have deep : readItems most room (skipGap ('[' :: cs)) = .error (.tooDeep .array) := by
      rw [skipGap_cons rfl, readItems, ← inner, ih]
    rw [front, inner, readValue, if_neg (Nat.succ_ne_zero room),
      closes_of_ne rfl (by decide)]
    dsimp only
    rw [Nat.add_sub_cancel, deep]

theorem lists_plain (n : Nat) :
    (lists n).isFloatFree = true ∧ (lists n).isRegular = true ∧ (lists n).digits = 0 ∧
      (lists n).depth = n + 1 := by
  induction n with
  | zero => exact ⟨rfl, rfl, rfl, rfl⟩
  | succ n ih =>
    obtain ⟨floatFree, regular, digits, depth⟩ := ih
    refine ⟨?_, ?_, ?_, ?_⟩
    · rw [lists, isFloatFree, allFloatFree, floatFree]
      rfl
    · rw [lists, isRegular, allRegular, regular]
      rfl
    · rw [lists, Json.digits, itemDigits, digits]
      rfl
    · rw [lists, Json.depth, itemDepth, depth, itemDepth, Nat.max_zero, Nat.add_comm]

/-- However deep a reader goes, there is a text that is nested deeper and is JSON for another. -/
theorem exists_read_tooDeep (most room : Nat) :
    ∃ text : String, (∃ more value, readWithin most more text.toList = .ok value) ∧
      readWithin most room text.toList = .error (.tooDeep .array) := by
  obtain ⟨floatFree, regular, digits, depth⟩ := lists_plain room
  refine ⟨(lists room).compact, ⟨room + 1, lists room, ?_⟩, ?_⟩
  · rw [compact, String.toList_ofList]
    exact readWithin_write floatFree regular (digits ▸ Nat.zero_le most) (Nat.le_of_eq depth)
  · have deep := readValue_write_lists most room []
    obtain ⟨cs, front⟩ := exists_write_lists_eq_cons room []
    rw [front] at deep
    have start : readValue most room (skipGap ('[' :: cs)) = .error (.tooDeep .array) := by
      rw [skipGap_cons rfl, deep]
    rw [compact, String.toList_ofList, ← List.append_nil (write .compact (lists room)), front,
      readWithin, start]

end Json

open SettingsSource in
/-- Of an argument that is given in two spellings the first one counts, and a list of exempt paths
that is nested deeper than the reader goes is no list with faults. -/
theorem Settings.build_twice_spelled_or_deep :
    (∃ s, build ⟨[("SECRET", .str "other"), ("secret", .str "s3cret")], []⟩ = .ok s ∧
      s.secret ≠ "s3cret") ∧
    ∃ text, (∃ room value, Json.readWithin Text.maxDigits room text.toList = .ok value) ∧
      build ⟨[("secret", .str "s3cret")], [("AUTHZ_EXEMPT_PATHS", text)]⟩ = .error .tooDeep := by
  refine ⟨⟨_, rfl, by decide⟩, ?_⟩
  obtain ⟨text, valid, deep⟩ := Json.exists_read_tooDeep Text.maxDigits Json.maxDepth
  refine ⟨text, valid, ?_⟩
  have named : Text.lower "AUTHZ_EXEMPT_PATHS" = variableStart ++ SettingName.exemptPaths.text := by
    decide +kernel
  have list : fromEnvironment? ⟨[("secret", .str "s3cret")], [("AUTHZ_EXEMPT_PATHS", text)]⟩
      .exemptPaths = some text := by
    rw [fromEnvironment?, find?, List.reverse_singleton, List.find?_singleton,
      if_pos (decide_eq_true named), Option.map_some]
  rw [build, exemptList?, list]
  dsimp only
  rw [Json.read, deep]

end AccessControl
