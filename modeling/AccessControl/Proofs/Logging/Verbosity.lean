import AccessControl.Proofs.Logging.Threshold

/-!
# Verbosity

Which records an environment lets through. `leastWritten` gives the level from which on records of a
name are written, by the verbosity and by whether the authentication modules are logged; it never rises
with either.

* `LogConfig.level_ofEnvironment`, `mem_rules_ofEnvironment_iff`: what an environment configures;
* `LogConfig.least_max_level_ofEnvironment`: the level that a record has to reach;
* `rank_leastWritten_le`: more verbosity means a lower level;
* `LogConfig.written_iff_least`: these put together over any run.
-/
namespace AccessControl

inductive Verbosity
  | quiet
  | normal
  | verbose
  | debug
  deriving DecidableEq, Repr

namespace Verbosity

def text : Verbosity → String
  | .quiet => "QUIET"
  | .normal => "NORMAL"
  | .verbose => "VERBOSE"
  | .debug => "DEBUG"

def level : Verbosity → LogLevel
  | .quiet => .error
  | .normal => .warning
  | .verbose => .info
  | .debug => .debug

/-- The level from which on records are written that are kept down: not below warnings unless
everything is logged. -/
def levelKeptDown (v : Verbosity) : LogLevel :=
  if v.level = .debug then .info else v.level.max .warning

def rank : Verbosity → Nat
  | .quiet => 0
  | .normal => 1
  | .verbose => 2
  | .debug => 3

/-- The verbosity whose word it is but for letter case; any other word means the normal one. -/
def ofWord (word : String) : Verbosity :=
  ([quiet, normal, verbose, debug].find? fun v => v.text = Text.upper word).getD .normal

def ofEnvironment (env : List (String × String)) : Verbosity :=
  ((env.lookup "LOG_VERBOSITY").map ofWord).getD .normal

theorem level_ofWord (word : String) : LogLevel.ofVerbosity word = (ofWord word).level := by
  rw [LogLevel.ofVerbosity, ofWord]
  generalize Text.upper word = capitals
  split
  · rfl
  · rfl
  · rfl
  · rename_i quiet verbose debug
    cases found : [Verbosity.quiet, .normal, .verbose, .debug].find? fun v => v.text = capitals with
    | none => rfl
    | some v =>
      have same := List.find?_some found
      obtain rfl := of_decide_eq_true same
      cases v with
      | quiet => exact absurd rfl quiet
      | normal => rfl
      | verbose => exact absurd rfl verbose
      | debug => exact absurd rfl debug

theorem rank_level_le_levelKeptDown (v : Verbosity) : v.level.rank ≤ v.levelKeptDown.rank := by
  cases v <;> decide

theorem rank_levels_le {v w : Verbosity} (more : v.rank ≤ w.rank) :
    w.level.rank ≤ v.level.rank ∧ w.levelKeptDown.rank ≤ v.levelKeptDown.rank := by
  revert more
  cases v <;> cases w <;> decide

end Verbosity

def LogsAuthentication (env : List (String × String)) : Prop :=
  (env.lookup "ENABLE_AUTH_LOGGING").map Text.lower = some "true"

instance (env : List (String × String)) : Decidable (LogsAuthentication env) :=
  inferInstanceAs (Decidable (_ = _))

/-- The level from which on records of a logger are written: that of errors in the noisy libraries,
not below warnings in the authentication modules unless they are asked for or everything is, and else
that of the verbosity. -/
def leastWritten (env : List (String × String)) (name : String) : LogLevel :=
  if ∃ library ∈ ["httpx", "httpcore", "asyncio"], IsWithin name library then .error
  else if ¬ LogsAuthentication env ∧ IsWithin name "authz.features.auth" then
    (Verbosity.ofEnvironment env).levelKeptDown
  else (Verbosity.ofEnvironment env).level

/-- More verbosity, or records of the authentication modules asked for, never raises the level. -/
theorem rank_leastWritten_le {env env' : List (String × String)}
    (more : (Verbosity.ofEnvironment env).rank ≤ (Verbosity.ofEnvironment env').rank)
    (also : LogsAuthentication env → LogsAuthentication env') (name : String) :
    (leastWritten env' name).rank ≤ (leastWritten env name).rank := by
  obtain ⟨lower, keptLower⟩ := Verbosity.rank_levels_le more
  have kept := Verbosity.rank_level_le_levelKeptDown (Verbosity.ofEnvironment env)
  rw [leastWritten, leastWritten]
  split_ifs with library bare bare' bare
  · exact Nat.le_refl _
  · exact keptLower
  · -- what is kept down with more verbosity is kept down with less
    exact absurd ⟨fun asked => bare.1 (also asked), bare.2⟩ bare'
  · exact Nat.le_trans lower kept
  · exact lower

namespace LogConfig

variable {env : List (String × String)}

theorem level_ofEnvironment : (ofEnvironment env).level = (Verbosity.ofEnvironment env).level := by
  rw [ofEnvironment, Verbosity.ofEnvironment]
  cases env.lookup "LOG_VERBOSITY" with
  | none => rfl
  | some word => exact Verbosity.level_ofWord word

def authenticationLevel (level : LogLevel) : LogLevel :=
  if level = .debug then .info else .warning

theorem authLogging_iff :
    Text.lower ((env.lookup "ENABLE_AUTH_LOGGING").getD "false") = "true" ↔
      LogsAuthentication env := by
  rw [LogsAuthentication]
  cases env.lookup "ENABLE_AUTH_LOGGING" with
  | none => exact iff_of_false (by decide) nofun
  | some word => exact (Option.some.injEq _ _).symm.to_iff

theorem mem_rules_ofEnvironment_iff {rule : LoggerRule} :
    rule ∈ (ofEnvironment env).rules ↔
      (rule.name ∈ errorOnly ∧ rule.level = .error) ∨
        (¬ LogsAuthentication env ∧ rule.name = "authz.features.auth" ∧
          rule.level = authenticationLevel (Verbosity.ofEnvironment env).level) := by
  rw [← level_ofEnvironment, ← authLogging_iff]
  obtain ⟨name, level⟩ := rule
  simp only [ofEnvironment, List.mem_append, List.mem_map, LoggerRule.mk.injEq]
  refine or_congr ?_ ?_
  · constructor
    · rintro ⟨library, listed, rfl, rfl⟩
      exact ⟨listed, rfl⟩
    · rintro ⟨listed, rfl⟩
      exact ⟨name, listed, rfl, rfl⟩
  · by_cases asked : Text.lower ((env.lookup "ENABLE_AUTH_LOGGING").getD "false") = "true"
    · rw [if_pos asked]
      exact iff_of_false List.not_mem_nil fun kept => kept.1 asked
    · rw [if_neg asked, authentication, List.map_singleton, List.mem_singleton,
        LoggerRule.mk.injEq, and_iff_right asked]
      rfl

def ruledNames : List String := errorOnly ++ authentication

/-- None of them goes on from another one. -/
theorem ruledNames_apart : ∀ a ∈ ruledNames, ∀ b ∈ ruledNames,
    a.toList ++ ['.'] <+: b.toList ++ ['.'] → a = b := by
  decide +kernel

theorem eq_of_isWithin {a b name : String} (listed : a ∈ ruledNames) (other : b ∈ ruledNames)
    (within : IsWithin name a) (also : IsWithin name b) : a = b := by
  rw [isWithin_iff] at within also
  obtain shorter | longer := List.prefix_or_prefix_of_prefix within also
  · exact ruledNames_apart a listed b other shorter
  · exact (ruledNames_apart b other a listed longer).symm

theorem separates_ofEnvironment (env : List (String × String)) : (ofEnvironment env).Separates := by
  have ruled (rule : LoggerRule) (listed : rule ∈ (ofEnvironment env).rules) :
      rule.name ∈ ruledNames := by
    obtain ⟨library, -⟩ | ⟨-, named, -⟩ := mem_rules_ofEnvironment_iff.mp listed
    · exact List.mem_append_left _ library
    · exact List.mem_append_right _ (List.mem_singleton.mpr named)
  refine ⟨fun rule listed nameless => ?_, fun rule listed other also name within too => ?_⟩
  · have nothing := ruled rule listed
    rw [nameless] at nothing
    exact absurd nothing (by decide)
  · have same := eq_of_isWithin (ruled rule listed) (ruled other also) within too
    have apart : "authz.features.auth" ∉ errorOnly := by decide
    rw [mem_rules_ofEnvironment_iff] at listed also
    obtain ⟨ruleName, ruleLevel⟩ := rule
    obtain ⟨otherName, otherLevel⟩ := other
    obtain rfl : ruleName = otherName := same
    obtain ⟨library, rfl⟩ | ⟨-, named, rfl⟩ := listed
    · obtain ⟨-, rfl⟩ | ⟨-, named, -⟩ := also
      · rfl
      · exact absurd (named ▸ library) apart
    · obtain ⟨library, -⟩ | ⟨-, -, rfl⟩ := also
      · exact absurd (named ▸ library) apart
      · rfl

theorem least_max_level_ofEnvironment (env : List (String × String)) (name : String) :
    ((ofEnvironment env).least name).max (ofEnvironment env).level = leastWritten env name := by
  have separates := separates_ofEnvironment env
  rw [level_ofEnvironment, leastWritten]
  split_ifs with library bare
  · obtain ⟨above, listed, within⟩ := library
    have rule : ⟨above, .error⟩ ∈ (ofEnvironment env).rules :=
      mem_rules_ofEnvironment_iff.mpr (.inl ⟨listed, rfl⟩)
    rw [least_eq_of_within separates rule within]
    cases Verbosity.ofEnvironment env <;> rfl
  · have rule : ⟨"authz.features.auth", authenticationLevel (Verbosity.ofEnvironment env).level⟩ ∈
        (ofEnvironment env).rules :=
      mem_rules_ofEnvironment_iff.mpr (.inr ⟨bare.1, rfl, rfl⟩)
    rw [least_eq_of_within separates rule bare.2]
    cases Verbosity.ofEnvironment env <;> rfl
  · rw [least_eq_of_apart, level_ofEnvironment, LogLevel.max, if_neg (Nat.lt_irrefl _)]
    intro rule listed within
    obtain ⟨listed, -⟩ | ⟨kept, named, -⟩ := mem_rules_ofEnvironment_iff.mp listed
    · exact library ⟨rule.name, listed, within⟩
    · exact bare ⟨kept, named ▸ within⟩

theorem timesWritten_ofEnvironment (env : List (String × String)) (before : List Emission)
    {name : String} (dotted : IsDotted name) (level : LogLevel) :
    (ofEnvironment env).timesWritten ((ofEnvironment env).memoryAfter before) name level =
      if (leastWritten env name).rank ≤ level.rank then 1 else 0 := by
  have separates := separates_ofEnvironment env
  rw [timesWritten_eq separates (keeps_memoryAfter separates before) dotted,
    least_max_level_ofEnvironment]

/-- After any records a record of a dotted logger is written once, if its level reaches the least one
for its name, and not at all otherwise; no record at all is written twice. A record that is written is
also written, after any other records, where the verbosity is at least as high and the authentication
modules are asked for if they were before. -/
theorem written_iff_least (env : List (String × String)) (before later : List Emission)
    (e : Emission) (dotted : IsDotted e.logger) :
    (ofEnvironment env).lines (before ++ e :: later) =
        (ofEnvironment env).lines before ++
          (if (leastWritten env e.logger).rank ≤ e.level.rank then (ofEnvironment env).linesOnce e
            else []) ++
          (ofEnvironment env).linesFrom ((ofEnvironment env).memoryAfter (before ++ [e])) later ∧
      (ofEnvironment env).timesWritten ((ofEnvironment env).memoryAfter before) e.logger e.level =
        (if (leastWritten env e.logger).rank ≤ e.level.rank then 1 else 0) ∧
      (∀ (c : LogConfig) (m : LogMemory) (name : String) (level : LogLevel),
        c.timesWritten m name level ≤ 1) ∧
      ∀ env', (Verbosity.ofEnvironment env).rank ≤ (Verbosity.ofEnvironment env').rank →
        (LogsAuthentication env → LogsAuthentication env') → ∀ before' : List Emission,
        (ofEnvironment env).timesWritten ((ofEnvironment env).memoryAfter before) e.logger
          e.level = 1 →
        (ofEnvironment env').timesWritten ((ofEnvironment env').memoryAfter before') e.logger
          e.level = 1 := by
  have times := timesWritten_ofEnvironment env before dotted e.level
  refine ⟨?_, times, timesWritten_le_one, fun env' more also before' written => ?_⟩
  · rw [lines_append_cons, times]
    split_ifs
    · rw [List.replicate_one, List.flatten_singleton]
    · rfl
  · rw [times] at written
    have reached : (leastWritten env e.logger).rank ≤ e.level.rank := by
      by_contra below
      rw [if_neg below] at written
      cases written
    rw [timesWritten_ofEnvironment env' before' dotted,
      if_pos (Nat.le_trans (rank_leastWritten_le more also e.logger) reached)]

def tokenRecord (level : LogLevel) : Emission :=
  ⟨"authz.features.auth.tokens", level, "token", "12:00", "tokens.py:1"⟩

theorem written_tokenRecord :
    IsDotted (tokenRecord .info).logger ∧
      (ofEnvironment [("LOG_VERBOSITY", "Verbose")]).timesWritten
        ((ofEnvironment [("LOG_VERBOSITY", "Verbose")]).memoryAfter [tokenRecord .warning])
        (tokenRecord .info).logger .info = 0 ∧
      (ofEnvironment [("LOG_VERBOSITY", "debug")]).timesWritten
        ((ofEnvironment [("LOG_VERBOSITY", "debug")]).memoryAfter [])
        (tokenRecord .warning).logger .warning = 1 := by
  have dotted : IsDotted (tokenRecord .info).logger := by decide +kernel
  obtain ⟨-, dropped, -, -⟩ := written_iff_least [("LOG_VERBOSITY", "Verbose")]
    [tokenRecord .warning] [] (tokenRecord .info) dotted
  obtain ⟨-, times, -, keeps⟩ := written_iff_least [("LOG_VERBOSITY", "Verbose")] [] []
    (tokenRecord .warning) dotted
  refine ⟨dotted, dropped.trans (if_neg (by decide +kernel)), ?_⟩
  refine keeps [("LOG_VERBOSITY", "debug")] (by decide +kernel) id [] ?_
  exact times.trans (if_pos (by decide +kernel))

end LogConfig

end AccessControl
