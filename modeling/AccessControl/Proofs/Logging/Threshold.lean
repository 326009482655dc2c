import AccessControl.Proofs.Logging.Ancestry

/-!
# When a record is written

Under a configuration whose rules are about separate parts of the names, what records are written
depends on their own name and level only, whatever was written before. `LogConfig.least` is the level
of the rule that a name is within, and `LogMemory.Keeps` the invariant that carries it over a run.

* `LogConfig.threshold_eq`: the search for the nearest level ends at `least`;
* `LogConfig.keeps_remember`, `keeps_memoryAfter`: the invariant is kept by a record and by a run;
* `LogConfig.timesWritten_eq`: a record is written once or not at all.
-/
namespace AccessControl

namespace LogConfig

variable {c : LogConfig} {known : List String} {name : String} {rule : LoggerRule}

/-- No rule is about the root, and no name is within those of two rules. -/
structure Separates (c : LogConfig) : Prop where
  named : ∀ rule ∈ c.rules, rule.name ≠ ""
  alone : ∀ rule ∈ c.rules, ∀ other ∈ c.rules, ∀ name,
    IsWithin name rule.name → IsWithin name other.name → rule = other

/-- The level of the rule that a name is within, else that of the configuration. -/
def least (c : LogConfig) (name : String) : LogLevel :=
  match c.rules.find? fun rule => IsWithin name rule.name with
  | some rule => rule.level
  | none => c.level

theorem least_eq_of_within (separates : c.Separates) (listed : rule ∈ c.rules)
    (within : IsWithin name rule.name) : c.least name = rule.level := by
  rw [least]
  split
  · rename_i other found
    have also := List.find?_some found
    rw [separates.alone rule listed other (List.mem_of_find?_eq_some found) name within
      (of_decide_eq_true also)]
  · rename_i missed
    exact absurd (decide_eq_true within) (List.find?_eq_none.mp missed rule listed)

theorem least_eq_of_apart (apart : ∀ rule ∈ c.rules, ¬ IsWithin name rule.name) :
    c.least name = c.level := by
  rw [least, List.find?_eq_none.mpr fun rule listed => by simpa using apart rule listed]

/-! ### The way up -/

/-- A logger with a level of its own has it from a rule about just that logger. -/
theorem exists_rule_of_level {level : LogLevel} (own : (c.state name).level = some level) :
    ∃ rule ∈ c.rules, rule.name = name ∧ rule.level = level := by
  unfold state at own
  split at own
  · rename_i rule found
    have same := List.find?_some found
    exact ⟨rule, List.mem_of_find?_eq_some found, of_decide_eq_true same, Option.some.inj own⟩
  · cases own

theorem level_isSome_of_rule (listed : rule ∈ c.rules) :
    ((c.state rule.name).level).isSome = true := by
  unfold state
  split
  · rfl
  · rename_i missed
    exact absurd (decide_eq_true rfl) (List.find?_eq_none.mp missed rule listed)

/-- The levels found on the way up are those of rules that the name is within. -/
theorem exists_within_of_findSome? (separates : c.Separates)
    (ruled : ∀ rule ∈ c.rules, rule.name ∈ known) (dotted : IsDotted name) {level : LogLevel}
    (found : (name :: loggersAbove known false name.toList.reverse).findSome?
      (fun above => (c.state above).level) = some level) :
    ∃ rule ∈ c.rules, IsWithin name rule.name ∧ rule.level = level := by
  obtain ⟨above, onWay, own⟩ := List.exists_of_findSome?_eq_some found
  obtain ⟨rule, listed, rfl, same⟩ := exists_rule_of_level own
  refine ⟨rule, listed, ?_, same⟩
  rwa [mem_self_or_above_iff dotted (ruled rule listed) (separates.named rule listed)] at onWay

theorem threshold_eq (separates : c.Separates) (ruled : ∀ rule ∈ c.rules, rule.name ∈ known)
    (dotted : IsDotted name) : c.threshold known name = c.least name := by
  rw [threshold, chain, List.findSome?_append, List.findSome?_map]
  cases found : (name :: loggersAbove known false name.toList.reverse).findSome?
      (LoggerState.level ∘ c.state) with
  | some level =>
    obtain ⟨rule, listed, within, rfl⟩ := exists_within_of_findSome? separates ruled dotted found
    exact (least_eq_of_within separates listed within).symm
  | none =>
    refine (least_eq_of_apart fun rule listed within => ?_).symm
    have onWay := (mem_self_or_above_iff dotted (ruled rule listed)
      (separates.named rule listed)).mpr within
    have own := level_isSome_of_rule listed
    rw [← Function.comp_apply (f := LoggerState.level), List.findSome?_eq_none_iff.mp found _ onWay]
      at own
    cases own

/-- Every way up ends at one handler. -/
theorem handlersOn_chain (c : LogConfig) (known : List String) (name : String) :
    handlersOn (c.chain known name) = 1 := by
  rw [chain]
  induction name :: loggersAbove known false name.toList.reverse with
  | nil => rfl
  | cons above rest ih =>
    rw [List.map_cons, List.cons_append, handlersOn, ih, state]
    split <;> rfl

end LogConfig

/-! ### What is remembered -/

/-- The loggers with rules are known, and what is settled for a dotted name follows from its level. -/
structure LogMemory.Keeps (m : LogMemory) (c : LogConfig) : Prop where
  ruled : ∀ rule ∈ c.rules, rule.name ∈ m.known
  settled : ∀ name level passes, IsDotted name → m.settled.lookup (name, level) = some passes →
    passes = decide ((c.least name).rank ≤ level.rank)

namespace LogConfig

variable {c : LogConfig} {m : LogMemory} {name : String} {level : LogLevel}

theorem passes_eq (separates : c.Separates) (keeps : m.Keeps c) (dotted : IsDotted name) :
    c.passes m name level = decide ((c.least name).rank ≤ level.rank) := by
  rw [passes, threshold_eq separates keeps.ruled dotted]
  cases found : m.settled.lookup (name, level) with
  | none => rfl
  | some passes => exact keeps.settled name level passes dotted found

theorem keeps_remember (separates : c.Separates) (keeps : m.Keeps c) :
    (c.remember m name level).Keeps c := by
  refine ⟨fun rule listed => List.mem_cons_of_mem _ (keeps.ruled rule listed), ?_⟩
  intro other least passes dotted found
  rw [remember, List.lookup_cons] at found
  split at found
  · rename_i same
    obtain ⟨rfl, rfl⟩ := Prod.mk.inj (eq_of_beq same)
    rw [← passes_eq separates keeps dotted, Option.some.inj found]
  · exact keeps.settled other least passes dotted found

def memoryFrom (c : LogConfig) (m : LogMemory) (es : List Emission) : LogMemory :=
  es.foldl (fun m e => c.remember m e.logger e.level) m

theorem keeps_memoryFrom (separates : c.Separates) (keeps : m.Keeps c) (es : List Emission) :
    (c.memoryFrom m es).Keeps c := by
  induction es generalizing m with
  | nil => exact keeps
  | cons e rest ih => exact ih (keeps_remember separates keeps)

theorem keeps_memory (c : LogConfig) : c.memory.Keeps c :=
  ⟨fun _ listed => List.mem_map_of_mem listed, nofun⟩

def memoryAfter (c : LogConfig) (es : List Emission) : LogMemory := c.memoryFrom c.memory es

theorem keeps_memoryAfter (separates : c.Separates) (es : List Emission) :
    (c.memoryAfter es).Keeps c :=
  keeps_memoryFrom separates (keeps_memory c) es

theorem timesWritten_le_one (c : LogConfig) (m : LogMemory) (name : String) (level : LogLevel) :
    c.timesWritten m name level ≤ 1 := by
  rw [timesWritten, handlersOn_chain]
  split_ifs
  · exact Nat.le_refl 1
  · exact Nat.zero_le 1

/-- A record is written once, if its level reaches that of its name and that of the handler. -/
theorem timesWritten_eq (separates : c.Separates) (keeps : m.Keeps c) (dotted : IsDotted name) :
    c.timesWritten m name level = if ((c.least name).max c.level).rank ≤ level.rank then 1 else 0 := by
  rw [timesWritten, handlersOn_chain, passes_eq separates keeps dotted]
  refine if_congr ?_ rfl rfl
  rw [decide_eq_true_iff, LogLevel.max]
  split_ifs <;> omega

theorem linesFrom_append (c : LogConfig) (m : LogMemory) (before later : List Emission) :
    c.linesFrom m (before ++ later) =
      c.linesFrom m before ++ c.linesFrom (c.memoryFrom m before) later := by
  induction before generalizing m with
  | nil => rfl
  | cons e rest ih =>
    rw [List.cons_append, linesFrom, linesFrom, ih, List.append_assoc]
    rfl

theorem lines_append_cons (c : LogConfig) (before later : List Emission) (e : Emission) :
    c.lines (before ++ e :: later) =
      c.lines before ++
        (List.replicate (c.timesWritten (c.memoryAfter before) e.logger e.level)
          (c.linesOnce e)).flatten ++
        c.linesFrom (c.memoryAfter (before ++ [e])) later := by
  have next : c.remember (c.memoryAfter before) e.logger e.level = c.memoryAfter (before ++ [e]) := by
    rw [memoryAfter, memoryAfter, memoryFrom, memoryFrom, List.foldl_append]
    rfl
  rw [lines, linesFrom_append, linesFrom, ← memoryAfter, next, ← lines, ← List.append_assoc]

end LogConfig

end AccessControl
