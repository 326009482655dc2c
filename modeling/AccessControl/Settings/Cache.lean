import AccessControl.Settings.Build

/-!
# Cached settings

Settings built from the environment are kept until the cache is cleared. A failure is reported and
not kept.
-/
namespace AccessControl

structure SettingsCache where
  kept : Option Settings
  deriving DecidableEq, Repr

inductive CacheStep
  | clear
  | ask (environment : List (String × String))
  deriving DecidableEq, Repr

/-- The answer to a step; clearing has none. -/
abbrev CacheAnswer := Option (Except SettingsError Settings)

namespace SettingsCache

def empty : SettingsCache := ⟨none⟩

def step (cache : SettingsCache) : CacheStep → SettingsCache × CacheAnswer
  | .clear => (empty, none)
  | .ask environment =>
    match cache.kept with
    | some settings => (cache, some (.ok settings))
    | none =>
      match Settings.build ⟨[], environment⟩ with
      | .ok settings => (⟨some settings⟩, some (.ok settings))
      | .error e => (cache, some (.error e))

def run (cache : SettingsCache) : List CacheStep → List CacheAnswer
  | [] => []
  | s :: rest => (cache.step s).2 :: run (cache.step s).1 rest

end SettingsCache

end AccessControl
