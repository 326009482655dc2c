import AccessControl.Settings.Cache
import Mathlib.Data.List.Induction

/-!
# What the settings cache answers

The cache keeps the settings of the first environment that gives any, among those asked in since it
was last cleared. One step keeps this invariant (`Keeps.step`), hence a run does (`keeps_after`), and
every answer is read off it:

* `first?_eq_some_iff`, `first?_eq_none_iff`: the first settings that environments give;
* `answer_eq_ok_iff`, `answer_eq_error_iff`: when settings are answered, and when an error is;
* `step_ask_of_fails`, `run_asks_of_kept`: asking in vain leaves no trace, and settings that are kept
  are the answer in every environment.
-/
namespace AccessControl

namespace Settings

def ofEnvironment (environment : List (String × String)) : Except SettingsError Settings :=
  build ⟨[], environment⟩

def Fails (environment : List (String × String)) : Prop :=
  ∃ e, ofEnvironment environment = .error e

def first? (environments : List (List (String × String))) : Option Settings :=
  environments.findSome? fun environment => (ofEnvironment environment).toOption

/-- The settings are those of an environment, and every environment before it fails. -/
def IsFirst (environments : List (List (String × String))) (s : Settings) : Prop :=
  ∃ earlier environment later, environments = earlier ++ environment :: later ∧
    (∀ x ∈ earlier, Fails x) ∧ ofEnvironment environment = .ok s

variable {environments : List (List (String × String))} {environment : List (String × String)}
  {s : Settings}

theorem toOption_eq_some_iff : (ofEnvironment environment).toOption = some s ↔
    ofEnvironment environment = .ok s := by
  cases ofEnvironment environment <;> simp [Except.toOption]

theorem toOption_eq_none_iff : (ofEnvironment environment).toOption = none ↔ Fails environment := by
  unfold Fails
  cases ofEnvironment environment <;> simp [Except.toOption]

theorem first?_eq_some_iff : first? environments = some s ↔ IsFirst environments s := by
  simp only [first?, List.findSome?_eq_some_iff, toOption_eq_some_iff, toOption_eq_none_iff, IsFirst,
    and_comm]

theorem first?_eq_none_iff : first? environments = none ↔ ∀ x ∈ environments, Fails x := by
  simp only [first?, List.findSome?_eq_none_iff, toOption_eq_none_iff]

theorem first?_concat : first? (environments ++ [environment]) =
    (first? environments).or (ofEnvironment environment).toOption := by
  rw [first?, List.findSome?_append, List.findSome?_singleton, first?]

end Settings

/-- The environments asked in since the cache was last cleared, or from the start, in order. -/
def CacheStep.asked (steps : List CacheStep) : List (List (String × String)) :=
  steps.foldl (fun environments step =>
    match step with
    | .clear => []
    | .ask environment => environments ++ [environment]) []

theorem CacheStep.asked_concat_clear (steps : List CacheStep) : asked (steps ++ [.clear]) = [] := by
  rw [asked, List.foldl_append, List.foldl_cons, List.foldl_nil]

theorem CacheStep.asked_concat_ask (steps : List CacheStep) (environment : List (String × String)) :
    asked (steps ++ [.ask environment]) = asked steps ++ [environment] := by
  rw [asked, List.foldl_append, List.foldl_cons, List.foldl_nil, asked]

namespace SettingsCache

variable {cache : SettingsCache} {steps : List CacheStep} {environment : List (String × String)}

def after (cache : SettingsCache) (steps : List CacheStep) : SettingsCache :=
  steps.foldl (fun cache step => (cache.step step).1) cache

/-- The cache keeps the first settings given since it was last cleared. -/
def Keeps (cache : SettingsCache) (steps : List CacheStep) : Prop :=
  cache.kept = Settings.first? (CacheStep.asked steps)

def answer (cache : SettingsCache) (environment : List (String × String)) :
    Except SettingsError Settings :=
  match cache.kept with
  | some s => .ok s
  | none => Settings.ofEnvironment environment

theorem step_ask_answer : (cache.step (.ask environment)).2 = some (cache.answer environment) := by
  unfold step answer Settings.ofEnvironment
  cases cache.kept with
  | some s => rfl
  | none =>
    dsimp only
    cases Settings.build ⟨[], environment⟩ <;> rfl

/-- Asking keeps what is kept, else what the environment gives. -/
theorem step_ask_kept : (cache.step (.ask environment)).1.kept =
    cache.kept.or (Settings.ofEnvironment environment).toOption := by
  unfold step Settings.ofEnvironment
  cases kept : cache.kept with
  | some s => exact kept
  | none =>
    dsimp only
    cases Settings.build ⟨[], environment⟩ with
    | ok s => rfl
    | error e => exact kept

/-- Asking in an environment that gives no settings leaves the cache as it was. -/
theorem step_ask_of_fails (fails : Settings.Fails environment) :
    (cache.step (.ask environment)).1 = cache := by
  have same : (cache.step (.ask environment)).1.kept = cache.kept := by
    rw [step_ask_kept, Settings.toOption_eq_none_iff.mpr fails, Option.or_none]
  exact congrArg SettingsCache.mk same

/-- So does asking when settings are kept. -/
theorem step_ask_of_kept {s : Settings} (kept : cache.kept = some s) :
    (cache.step (.ask environment)).1 = cache := by
  have same : (cache.step (.ask environment)).1.kept = cache.kept := by
    rw [step_ask_kept, kept, Option.some_or]
  exact congrArg SettingsCache.mk same

/-- Step: the cache keeps the first settings given, one step further. -/
theorem Keeps.step (keeps : cache.Keeps steps) (step : CacheStep) :
    (cache.step step).1.Keeps (steps ++ [step]) := by
  unfold Keeps at keeps ⊢
  cases step with
  | clear =>
    rw [CacheStep.asked_concat_clear]
    rfl
  | ask environment =>
    rw [step_ask_kept, CacheStep.asked_concat_ask, Settings.first?_concat, keeps]

/-- Run: so it is after any steps from the empty cache. -/
theorem keeps_after (steps : List CacheStep) : (empty.after steps).Keeps steps := by
  induction steps using List.reverseRecOn with
  | nil => rfl
  | append_singleton steps step ih =>
    rw [after, List.foldl_append, List.foldl_cons, List.foldl_nil]
    exact ih.step step

/-- Settings are answered that were given first since the last clearing, by this environment too. -/
theorem answer_eq_ok_iff (keeps : cache.Keeps steps) {s : Settings} :
    cache.answer environment = .ok s ↔
      Settings.IsFirst (CacheStep.asked steps ++ [environment]) s := by
  rw [← Settings.first?_eq_some_iff, Settings.first?_concat, ← keeps, answer]
  cases cache.kept with
  | some kept => simp
  | none => rw [Option.none_or, Settings.toOption_eq_some_iff]

/-- An error is answered where nothing was given, and it is the one of this environment. -/
theorem answer_eq_error_iff (keeps : cache.Keeps steps) {e : SettingsError} :
    cache.answer environment = .error e ↔ (∀ x ∈ CacheStep.asked steps, Settings.Fails x) ∧
      Settings.ofEnvironment environment = .error e := by
  rw [← Settings.first?_eq_none_iff, ← keeps, answer]
  cases cache.kept <;> simp

theorem run_append (cache : SettingsCache) (before later : List CacheStep) :
    cache.run (before ++ later) = cache.run before ++ (cache.after before).run later := by
  induction before generalizing cache with
  | nil => rfl
  | cons step rest ih =>
    rw [List.cons_append, run, ih, run, List.cons_append]
    rfl

theorem length_run (cache : SettingsCache) (steps : List CacheStep) :
    (cache.run steps).length = steps.length := by
  induction steps generalizing cache with
  | nil => rfl
  | cons step rest ih => rw [run, List.length_cons, ih, List.length_cons]

/-- Settings that are kept are answered in every environment. -/
theorem run_asks_of_kept {s : Settings} (kept : cache.kept = some s)
    (environments : List (List (String × String))) (later : List CacheStep) :
    cache.run (environments.map .ask ++ later) =
      List.replicate environments.length (some (.ok s)) ++ cache.run later := by
  induction environments with
  | nil => rfl
  | cons environment rest ih =>
    have answered : cache.answer environment = .ok s := by rw [answer, kept]
    rw [List.map_cons, List.cons_append, run, step_ask_of_kept kept, step_ask_answer, answered, ih,
      List.length_cons, List.replicate_succ, List.cons_append]

/-- A cache that starts empty gives one answer for each step. Clearing has none. In an environment,
settings are answered exactly when they are the first ones that an environment gives since the last
clearing, this one included, and an error exactly when all the earlier ones fail and it is this one's
own. To ask in an environment that fails changes no other answer, and once settings are given they are
the answer in every environment up to the next clearing. -/
theorem answers_first_built (before later : List CacheStep) :
    (empty.run before).length = before.length ∧
    (empty.run (before ++ .clear :: later))[before.length]? = some none ∧
    (∀ environment, ∃ answer,
      (empty.run (before ++ .ask environment :: later))[before.length]? = some (some answer) ∧
      (∀ s, answer = .ok s ↔
        Settings.IsFirst (CacheStep.asked before ++ [environment]) s) ∧
      (∀ e, answer = .error e ↔ (∀ x ∈ CacheStep.asked before, Settings.Fails x) ∧
        Settings.ofEnvironment environment = .error e)) ∧
    (∀ environment, Settings.Fails environment → ∃ answer rest,
      empty.run (before ++ .ask environment :: later) = empty.run before ++ answer :: rest ∧
      empty.run (before ++ later) = empty.run before ++ rest) ∧
    (∀ s, Settings.IsFirst (CacheStep.asked before) s →
      ∀ environments : List (List (String × String)), ∃ rest,
        empty.run (before ++ (environments.map .ask ++ later)) =
          empty.run before ++ (List.replicate environments.length (some (.ok s)) ++ rest)) := by
  have keeps := keeps_after before
  have answered (step : CacheStep) : (empty.run (before ++ step :: later))[before.length]? =
      some ((empty.after before).step step).2 := by
    rw [run_append, List.getElem?_append_right (Nat.le_of_eq (length_run _ _)), length_run,
      Nat.sub_self]
    rfl
  refine ⟨length_run _ _, answered .clear, fun environment => ?_, fun environment fails => ?_,
    fun s first environments => ?_⟩
  · refine ⟨(empty.after before).answer environment, ?_, fun s => answer_eq_ok_iff keeps,
      fun e => answer_eq_error_iff keeps⟩
    rw [answered, step_ask_answer]
  · refine ⟨((empty.after before).step (.ask environment)).2, _, ?_, run_append _ _ _⟩
    rw [run_append, run, step_ask_of_fails fails]
  · have kept := keeps.trans (Settings.first?_eq_some_iff.mpr first)
    refine ⟨(empty.after before).run later, ?_⟩
    rw [run_append, run_asks_of_kept kept]

end SettingsCache

/-- A secret is given in vain, and again after a start with another one was undone. -/
def restartedSteps : List CacheStep :=
  [.ask [("AUTHZ_SECRET", "first")], .clear, .ask [("AUTHZ_SECRET", "")],
    .ask [("authz_secret", "second")]]

theorem SettingsCache.answers_restartedSteps :
    Settings.Fails [] ∧ ∃ s, s.secret = "second" ∧
      Settings.IsFirst (CacheStep.asked restartedSteps) s ∧
      (∃ answer rest, empty.run (restartedSteps ++ [.ask [], .clear]) =
          empty.run restartedSteps ++ answer :: rest ∧
        empty.run (restartedSteps ++ [.clear]) = empty.run restartedSteps ++ rest) ∧
      (∃ rest, empty.run (restartedSteps ++ [.ask [], .ask [("AUTHZ_SECRET", "first")], .clear]) =
        empty.run restartedSteps ++ (List.replicate 2 (some (.ok s)) ++ rest)) := by
  obtain ⟨-, -, -, vain, kept⟩ := answers_first_built restartedSteps [.clear]
  have fails : Settings.Fails [] := ⟨_, rfl⟩
  have first : Settings.IsFirst (CacheStep.asked restartedSteps) _ :=
    ⟨[[("AUTHZ_SECRET", "")]], [("authz_secret", "second")], [], rfl,
      List.forall_mem_singleton.mpr ⟨_, rfl⟩, rfl⟩
  exact ⟨fails, _, rfl, first, vain [] fails, kept _ first [[], [("AUTHZ_SECRET", "first")]]⟩

end AccessControl
