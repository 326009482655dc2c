import AccessControl.Gateway.Route

/-!
# Guards in front of a route

A guard is made of values that could all be read as permissions, so the questions that it puts to an
authorization have answers, and it either lets the authorization pass or refuses it.

* `Guard.Passes`: every value that the guard demands is held;
* `run_eq_ok_iff`, `run_of_not_passes`: what one guard does with an authorization;
* `runAll_eq_ok_iff`, `runAll_of_not_passes`: what a list of guards does, by induction on the list.
  A refusal is that of the first guard that is not passed.
-/
namespace AccessControl

namespace Authorization

theorem holds_eq_true_iff (a : Authorization) (check : Check) (values : List Json) :
    a.holds check values = .ok true ↔ ∀ value ∈ values, a.index.query check value = .ok true := by
  induction values with
  | nil => simp [holds]
  | cons value rest ih =>
    rw [List.forall_mem_cons, ← ih, holds]
    rcases a.index.query check value with e | (_ | _) <;> simp

/-- Whether values that can all be read are held has an answer. -/
theorem holds_of_readable (a : Authorization) (check : Check) {values : List Json}
    (readable : ∀ value ∈ values, ∃ p, Permission.read value = .ok p) :
    ∃ answer, a.holds check values = .ok answer := by
  induction values with
  | nil => exact ⟨true, rfl⟩
  | cons value rest ih =>
    obtain ⟨⟨p, read⟩, later⟩ := List.forall_mem_cons.mp readable
    rw [holds, Index.query, read]
    cases asked : a.index.ask check p with
    | false => exact ⟨false, by simp only [Except.map, asked]⟩
    | true => simpa only [Except.map, asked] using ih later

end Authorization

/-- A reading of a list that succeeds reads every member. -/
theorem readable_of_mapM {α β ε : Type} {read : α → Except ε β} {values : List α} {readings : List β}
    (succeeded : values.mapM read = .ok readings) : ∀ value ∈ values, ∃ b, read value = .ok b := by
  induction values generalizing readings with
  | nil => simp
  | cons value rest ih =>
    rw [List.mapM_cons] at succeeded
    cases first : read value with
    | error e => simp [first, bind, Except.bind] at succeeded
    | ok b =>
      cases later : rest.mapM read with
      | error e => simp [first, later, bind, Except.bind] at succeeded
      | ok bs => exact List.forall_mem_cons.mpr ⟨⟨b, first⟩, ih later⟩

namespace Guard

variable {g : Guard} {guards : List Guard} {a : Authorization}

/-- The guard comes from values that could all be read when it was made. -/
def IsMade (g : Guard) : Prop :=
  ∃ check required, make check required = .ok g

/-- Every value that the guard demands is held by the authorization. -/
def Passes (g : Guard) (a : Authorization) : Prop :=
  ∀ value ∈ g.required, a.index.query g.check value = .ok true

theorem IsMade.readable (made : g.IsMade) :
    ∀ value ∈ g.required, ∃ p, Permission.read value = .ok p := by
  obtain ⟨check, required, made⟩ := made
  unfold make at made
  split at made
  · cases made
  · rename_i readings read
    cases made
    exact readable_of_mapM read

theorem run_eq_ok_iff : g.run a = .ok () ↔ g.Passes a := by
  unfold Passes
  rw [← Authorization.holds_eq_true_iff, run]
  rcases a.holds g.check g.required with e | (_ | _) <;> simp

/-- A guard that is not passed refuses, whatever is missing. -/
theorem run_of_not_passes (made : g.IsMade) (lacking : ¬ g.Passes a) :
    g.run a = .error g.refusal := by
  obtain ⟨answer, held⟩ := a.holds_of_readable g.check made.readable
  cases answer with
  | true => exact absurd ((a.holds_eq_true_iff g.check g.required).mp held) lacking
  | false => rw [run, held]

theorem runAll_eq_ok_iff : runAll a guards = .ok () ↔ ∀ guard ∈ guards, guard.Passes a := by
  induction guards with
  | nil => simp [runAll]
  | cons guard rest ih =>
    rw [List.forall_mem_cons, ← ih, ← run_eq_ok_iff, runAll]
    cases guard.run a <;> simp

/-- Guards that are not all passed end with the refusal of one of them, and with the record of it. -/
theorem runAll_of_not_passes (made : ∀ guard ∈ guards, guard.IsMade)
    (lacking : ¬ ∀ guard ∈ guards, guard.Passes a) :
    ∃ guard ∈ guards, ¬ guard.Passes a ∧
      runAll a guards = .error (guard.refusal, [.lacking a.userId guard]) := by
  induction guards with
  | nil => exact absurd (fun _ member => nomatch member) lacking
  | cons guard rest ih =>
    obtain ⟨here, later⟩ := List.forall_mem_cons.mp made
    -- the first guard refuses, or one of the rest has to
    by_cases passes : guard.Passes a
    · have missing : ¬ ∀ guard ∈ rest, guard.Passes a := fun passAll =>
        lacking (List.forall_mem_cons.mpr ⟨passes, passAll⟩)
      obtain ⟨refused, member, failed, ended⟩ := ih later missing
      refine ⟨refused, List.mem_cons_of_mem guard member, failed, ?_⟩
      rw [runAll, run_eq_ok_iff.mpr passes]
      exact ended
    · refine ⟨guard, List.mem_cons_self, passes, ?_⟩
      rw [runAll, run_of_not_passes here passes]
      simp

end Guard

end AccessControl
