import AccessControl.Grant.Basic

/-!
# Grants as summaries of named resources

A grant is what is kept of the resource names that were granted one after the other. The name of
all resources outweighs every other, the default one outweighs ordinary names, and the names
themselves are kept only when neither of the two is among them. `Summarises` says so of a grant and
a collection of names, whatever the order in which they came:

* one name is summarised by its own grant (`summarises_ofResource`);
* merging summarises the names of both sides (`summarises_merge`);
* the names determine the grant (`summarises_unique`), and so what it allows
  (`allows_iff_of_summarises`) and whether it is empty (`isEmpty_iff_of_summarises`).
-/
namespace AccessControl.Grant

/-- The grant is what is kept of a collection of names. -/
def Summarises (g : Grant) (named : String → Prop) : Prop :=
  match g with
  | .all => named allResources
  | .default => ¬ named allResources ∧ named defaultResource
  | .specific resources =>
    ¬ named allResources ∧ ¬ named defaultResource ∧ ∀ name, name ∈ resources ↔ named name

/-- A name asked for is met by a collection of names: all resources are in it; or they are not, but
the default one is, and is what is asked for; or neither of the two is in it, but the name is. -/
def MetBy (named : String → Prop) (name : String) : Prop :=
  named allResources ∨
    (¬ named allResources ∧ named defaultResource ∧ name = defaultResource) ∨
    (¬ named allResources ∧ ¬ named defaultResource ∧ named name)

theorem allResources_ne_defaultResource : allResources ≠ defaultResource := by decide

theorem summarises_empty : empty.Summarises fun _ => False :=
  ⟨id, id, fun name => iff_of_false (ResourceSet.not_mem_empty name) id⟩

theorem summarises_ofResource (resource : String) :
    (ofResource resource).Summarises fun name => resource = name := by
  unfold ofResource
  split
  · rename_i isAll
    exact isAll
  · rename_i notAll
    split
    · rename_i isDefault
      exact ⟨notAll, isDefault⟩
    · rename_i notDefault
      refine ⟨notAll, notDefault, fun name => ?_⟩
      rw [ResourceSet.mem_ofList, List.mem_singleton, eq_comm]

/-- Merging keeps the names of both sides: one case for each pair of states. -/
theorem summarises_merge {g h : Grant} {named others : String → Prop}
    (first : g.Summarises named) (second : h.Summarises others) :
    (g.merge h).Summarises fun name => named name ∨ others name := by
  cases g with
  | all => exact Or.inl first
  | default =>
    cases h with
    | all => exact Or.inr second
    | default => exact ⟨not_or.mpr ⟨first.1, second.1⟩, Or.inl first.2⟩
    | specific s => exact ⟨not_or.mpr ⟨first.1, second.1⟩, Or.inl first.2⟩
  | specific r =>
    cases h with
    | all => exact Or.inr second
    | default => exact ⟨not_or.mpr ⟨first.1, second.1⟩, Or.inr second.2⟩
    | specific s =>
      refine ⟨not_or.mpr ⟨first.1, second.1⟩, not_or.mpr ⟨first.2.1, second.2.1⟩, fun name => ?_⟩
      rw [ResourceSet.mem_union, first.2.2 name, second.2.2 name]

theorem Summarises.congr {g : Grant} {named others : String → Prop}
    (summary : g.Summarises named) (same : ∀ name, named name ↔ others name) :
    g.Summarises others := by
  have equal : named = others := funext fun name => propext (same name)
  rwa [← equal]

/-- A collection of names has one summary. -/
theorem summarises_unique {g h : Grant} {named : String → Prop}
    (first : g.Summarises named) (second : h.Summarises named) : g = h := by
  cases g with
  | all =>
    cases h with
    | all => rfl
    | default => exact absurd first second.1
    | specific s => exact absurd first second.1
  | default =>
    cases h with
    | all => exact absurd second first.1
    | default => rfl
    | specific s => exact absurd first.2 second.2.1
  | specific r =>
    cases h with
    | all => exact absurd second first.1
    | default => exact absurd second.2 first.2.1
    | specific s =>
      have same : r = s := ResourceSet.ext fun name =>
        (first.2.2 name).trans (second.2.2 name).symm
      rw [same]

theorem allows_iff_of_summarises {g : Grant} {named : String → Prop}
    (summary : g.Summarises named) (name : String) :
    g.allows name = true ↔ MetBy named name := by
  cases g with
  | all => exact iff_of_true rfl (Or.inl summary)
  | default =>
    have noAll : ¬ named allResources := summary.1
    have someDefault : named defaultResource := summary.2
    simp [allows, MetBy, noAll, someDefault]
  | specific resources =>
    have noAll : ¬ named allResources := summary.1
    have noDefault : ¬ named defaultResource := summary.2.1
    simp [allows, MetBy, noAll, noDefault, summary.2.2 name]

theorem isEmpty_iff_of_summarises {g : Grant} {named : String → Prop}
    (summary : g.Summarises named) : g.isEmpty = true ↔ ∀ name, ¬ named name := by
  cases g with
  | all => exact iff_of_false Bool.false_ne_true fun nothing => nothing _ summary
  | default => exact iff_of_false Bool.false_ne_true fun nothing => nothing _ summary.2
  | specific resources =>
    rw [isEmpty, ResourceSet.isEmpty_iff]
    exact forall_congr' fun name => not_congr (summary.2.2 name)

end AccessControl.Grant
