import AccessControl.Proofs.Index.Flatten

/-!
# How the questions to an index are ordered

A resource is only held where its action is, and an action only where the scope has a block. So of
every index, whatever its blocks, the answer to a full question is at most that to the question for
the action, and this one at most what is told about the contexts.

* `Demand.action_of_resource`, `meets_action_of_resource`: the demand for a resource is the stronger;
* `mem_keys_of_meets`, `reports_contextsOf_iff`: a demand is met in reported contexts only;
* `meets_readWrite`: both actions are held where each of the two is.
-/
namespace AccessControl

def ContextMatch.reports : ContextMatch → Context → Bool
  | .both, _ => true
  | .local, c => c = .local
  | .global, c => c = .global
  | .none, _ => false

theorem Demand.action_of_resource {g : Grant} {resource asked : String}
    (met : Demand.resource.met g resource = true) : Demand.action.met g asked = true := by
  have allowed : g.allows resource = true := met
  rw [Demand.met, Bool.not_eq_true', Bool.eq_false_iff]
  intro nothing
  rw [Grant.not_allows_of_isEmpty nothing] at allowed
  cases allowed

namespace Index

theorem meets_action_of_resource {i : Index} {c : Context} {p : Permission}
    (held : i.meets .resource c p = true) : i.meets .action c p = true := by
  rw [meets_iff] at held ⊢
  exact fun a concrete => Demand.action_of_resource (held a concrete)

theorem mem_keys_of_meets {i : Index} {demand : Demand} {c : Context} {p : Permission}
    (held : i.meets demand c p = true) : (⟨c, p.scope⟩ : BlockKey) ∈ i.keys := by
  rw [← find?_isSome_iff]
  unfold meets at held
  cases found : i.find? ⟨c, p.scope⟩ with
  | none =>
    rw [found] at held
    cases held
  | some block => rfl

theorem reports_contextsOf_iff (i : Index) (scope : String) (c : Context) :
    (i.contextsOf scope).reports c = true ↔ (⟨c, scope⟩ : BlockKey) ∈ i.keys := by
  rw [← find?_isSome_iff, contextsOf]
  cases c <;> cases (i.find? ⟨.local, scope⟩).isSome <;>
    cases (i.find? ⟨.global, scope⟩).isSome <;> decide

theorem queryContext_of_readScope (i : Index) {value : Json} {scope : String}
    (read : Permission.readScope value = .ok scope) :
    i.queryContext value = .ok (i.contextsOf scope) := by
  rw [queryContext, read, Except.map]

theorem queryContext_eq_ok_iff (i : Index) (value : Json) (found : ContextMatch) :
    i.queryContext value = .ok found ↔
      ∃ scope, Permission.readScope value = .ok scope ∧ i.contextsOf scope = found := by
  rw [queryContext]
  cases Permission.readScope value <;> simp [Except.map]

/-- Both actions are held where each of the two is. -/
theorem meets_readWrite (i : Index) (demand : Demand) (c : Context) (scope resource : String) :
    i.meets demand c ⟨scope, .readWrite, resource⟩ =
      (i.meets demand c ⟨scope, .read, resource⟩ && i.meets demand c ⟨scope, .write, resource⟩) := by
  rw [Bool.eq_iff_iff, Bool.and_eq_true, meets_iff, meets_iff, meets_iff]
  simp [Action.accesses]

end Index

end AccessControl
