import AccessControl.Proofs.Grant.Summary
import Mathlib.Data.Fintype.EquivFin

/-!
# Inclusion of grants, and coverage

Inclusion is decided on the states of two grants and their sets. Coverage asks about every resource
name: what the second grant allows, the first one allows too. Inclusion is a partial order, and it
is coverage except where the default name stands in a set: neither that set nor the default
capability is told to include the other, whatever they allow.

* `includes_self`, `includes_trans`, `includes_antisymm`: the order, through what a grant of each
  state includes (`default_includes_iff`, `specific_includes_iff`);
* `allows_of_includes`: what is included is covered;
* `covers_all_iff`, `covers_default_iff`, `covers_specific_iff`: what it takes to cover a grant of
  each state. A set never covers all resources, since names do not run out
  (`ResourceSet.exists_not_mem`);
* `covers_iff`: coverage is inclusion, or one of two cases with the default name in a set, and so
  `includes_of_covers` where no set has it.
-/
namespace AccessControl

namespace ResourceSet

/-- Names do not run out: some name is outside of the set. -/
theorem exists_not_mem (s : ResourceSet) : ∃ name, name ∉ s := by
  obtain ⟨name, fresh⟩ := Infinite.exists_notMem_finset s.names.toFinset
  refine ⟨name, ?_⟩
  intro member
  exact fresh (List.mem_toFinset.mpr member)

/-- A set in which no name but one may stand is empty, or the set of that name. -/
theorem forall_mem_eq_iff {s : ResourceSet} {name : String} :
    (∀ other ∈ s, other = name) ↔ s.isEmpty = true ∨ s = ofList [name] := by
  constructor
  · intro only
    by_cases held : name ∈ s
    · right
      apply ext
      intro other
      rw [mem_ofList, List.mem_singleton]
      constructor
      · exact only other
      · intro same
        rwa [same]
    · left
      rw [isEmpty_iff]
      intro other member
      exact held (only other member ▸ member)
  · intro either other member
    cases either with
    | inl nothing => exact absurd member (isEmpty_iff.mp nothing other)
    | inr same => simpa [same] using member

end ResourceSet

namespace Grant

theorem ofNames_names (resources : ResourceSet) : ofNames resources.names = .specific resources :=
  congrArg specific (ResourceSet.ext fun _ => ResourceSet.mem_ofList)

/-- The empty grant is the only one in which nothing is granted. -/
theorem eq_empty_of_isEmpty {g : Grant} (nothing : g.isEmpty = true) : g = .empty := by
  cases g with
  | all => cases nothing
  | default => cases nothing
  | specific resources =>
    have nameless := ResourceSet.isEmpty_iff.mp nothing
    apply congrArg specific
    apply ResourceSet.ext
    intro name
    exact iff_of_false (nameless name) (ResourceSet.not_mem_empty name)

theorem not_allows_of_isEmpty {g : Grant} (nothing : g.isEmpty = true) (resource : String) :
    g.allows resource = false := by
  rw [eq_empty_of_isEmpty nothing]
  rfl

theorem includes_self (g : Grant) : g.includes g = true := by
  cases g with
  | all => rfl
  | default => rfl
  | specific resources => exact ResourceSet.subset_iff.mpr fun _ member => member

/-- The empty grant covers nothing but itself. -/
theorem not_includes_of_isEmpty {container contained : Grant} (nothing : container.isEmpty = true)
    (something : contained.isEmpty = false) : container.includes contained = false := by
  rw [eq_empty_of_isEmpty nothing]
  cases contained with
  | all => rfl
  | default => rfl
  | specific resources =>
    rw [Bool.eq_false_iff]
    intro covered
    have nameless : ∀ name, name ∉ resources := fun name member =>
      ResourceSet.not_mem_empty name (ResourceSet.subset_iff.mp covered name member)
    rw [isEmpty, ResourceSet.isEmpty_iff.mpr nameless] at something
    cases something

/-- A grant that includes another allows all that the other allows. -/
theorem allows_of_includes {container contained : Grant}
    (covered : container.includes contained = true) {resource : String}
    (allowed : contained.allows resource = true) : container.allows resource = true := by
  cases container with
  | all => rfl
  | default =>
    cases contained with
    | all => cases covered
    | default => exact allowed
    | specific s =>
      have nothing : (specific s).isEmpty = true := covered
      rw [not_allows_of_isEmpty nothing] at allowed
      cases allowed
  | specific r =>
    cases contained with
    | all => cases covered
    | default => cases covered
    | specific s =>
      have member : resource ∈ s := ResourceSet.contains_iff.mp allowed
      exact ResourceSet.contains_iff.mpr (ResourceSet.subset_iff.mp covered resource member)

theorem includes_all_iff {g : Grant} : g.includes .all = true ↔ g = .all := by
  cases g <;> simp [includes, isEmpty]

theorem default_includes_iff {g : Grant} :
    includes .default g = true ↔ g = .default ∨ g.isEmpty = true := by
  cases g <;> simp [includes, isEmpty]

theorem specific_includes_iff {r : ResourceSet} {g : Grant} :
    includes (.specific r) g = true ↔ ∃ s, g = .specific s ∧ ∀ name ∈ s, name ∈ r := by
  cases g <;> simp [includes, ResourceSet.subset_iff]

theorem includes_trans {g h k : Grant} (first : g.includes h = true)
    (second : h.includes k = true) : g.includes k = true := by
  cases g with
  | all => rfl
  | default =>
    cases default_includes_iff.mp first with
    | inl same => rwa [same] at second
    | inr nothing =>
      rw [default_includes_iff]
      right
      by_contra something
      rw [not_includes_of_isEmpty nothing (Bool.eq_false_iff.mpr something)] at second
      cases second
  | specific r =>
    obtain ⟨s, rfl, inner⟩ := specific_includes_iff.mp first
    obtain ⟨t, rfl, innermost⟩ := specific_includes_iff.mp second
    rw [specific_includes_iff]
    refine ⟨t, rfl, ?_⟩
    intro name member
    exact inner name (innermost name member)

theorem includes_antisymm {g h : Grant} (there : g.includes h = true)
    (back : h.includes g = true) : g = h := by
  cases g with
  | all => exact (includes_all_iff.mp back).symm
  | default =>
    cases default_includes_iff.mp there with
    | inl same => exact same.symm
    | inr nothing =>
      rw [not_includes_of_isEmpty nothing rfl] at back
      cases back
  | specific r =>
    obtain ⟨s, rfl, inner⟩ := specific_includes_iff.mp there
    have outer := ResourceSet.subset_iff.mp back
    apply congrArg specific
    apply ResourceSet.ext
    intro name
    exact ⟨outer name, inner name⟩

/-- Every resource name that the second grant allows is allowed by the first. -/
def Covers (container contained : Grant) : Prop :=
  ∀ resource, contained.allows resource = true → container.allows resource = true

theorem covers_of_includes {g h : Grant} (included : g.includes h = true) : g.Covers h := by
  intro resource allowed
  exact allows_of_includes included allowed

/-- Only the grant of all resources covers itself: the default capability does not allow the name
of all resources, and a set leaves some name out. -/
theorem covers_all_iff {g : Grant} : g.Covers .all ↔ g = .all := by
  constructor
  · intro covers
    cases g with
    | all => rfl
    | default =>
      have same : allResources = defaultResource := of_decide_eq_true (covers allResources rfl)
      exact absurd same allResources_ne_defaultResource
    | specific r =>
      obtain ⟨name, fresh⟩ := r.exists_not_mem
      have allowed : allows (.specific r) name = true := covers name rfl
      exact absurd (ResourceSet.contains_iff.mp allowed) fresh
  · intro same resource _
    rw [same]
    rfl

theorem covers_default_iff {g : Grant} : g.Covers .default ↔ g.allows defaultResource = true := by
  constructor
  · intro covers
    apply covers
    simp [allows]
  · intro allowed resource asked
    have same : resource = defaultResource := of_decide_eq_true asked
    rwa [same]

theorem covers_specific_iff {g : Grant} {s : ResourceSet} :
    g.Covers (.specific s) ↔ ∀ name ∈ s, g.allows name = true := by
  simp [Covers, allows]

/-- Coverage is inclusion, except that the default capability covers the set of the default name
alone, and a set with the default name in it covers the default capability. -/
theorem covers_iff (g h : Grant) :
    g.Covers h ↔ g.includes h = true ∨
      (g = .default ∧ h = ofNames [defaultResource]) ∨
      h = .default ∧ ∃ names, g = .specific names ∧ defaultResource ∈ names := by
  cases h with
  | all =>
    rw [covers_all_iff, includes_all_iff]
    simp [ofNames]
  | default =>
    rw [covers_default_iff]
    cases g <;> simp [allows, includes, ofNames]
  | specific s =>
    rw [covers_specific_iff]
    cases g with
    | all => simp [allows, includes]
    | default =>
      have few := @ResourceSet.forall_mem_eq_iff s defaultResource
      simpa [allows, includes, isEmpty, ofNames] using few
    | specific r => simp [allows, includes, ResourceSet.subset_iff]

/-- Where the default name stands in no set, coverage is inclusion. -/
theorem includes_of_covers {g h : Grant} (unmarked : defaultResource ∉ g.resources)
    (unmarked' : defaultResource ∉ h.resources) (covers : g.Covers h) : g.includes h = true := by
  rcases (covers_iff g h).mp covers with included | ⟨-, rfl⟩ | ⟨-, names, rfl, member⟩
  · exact included
  · have member : defaultResource ∈ ResourceSet.ofList [defaultResource] := by simp
    exact absurd member unmarked'
  · exact absurd member unmarked

end Grant

end AccessControl
