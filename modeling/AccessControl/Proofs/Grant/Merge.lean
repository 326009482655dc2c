import AccessControl.Proofs.Grant.Coverage

/-!
# The algebra of merging

Merging is the join of a semilattice: the order, the grouping and the repetition of what is merged
do not matter (`merge_comm`, `merge_assoc`, `merge_self`), nothing granted is neutral and all
resources absorb (`empty_merge`, `all_merge`). It is not the union of what is allowed, since the
default capability absorbs sets without allowing their names: `Shadows` says where, and
`allows_merge_iff` that it is only there. For the same reason the order of the semilattice is
inclusion but for the default capability above the sets (`merge_eq_left_iff`).

What is made by `Grant.make` is told by `make_eq_ok_iff`, and every grant is made from its own kind
and names (`make_kind_names`), so that the laws are about all grants that can be made.
-/
namespace AccessControl

theorem GrantKind.ofText?_eq_some_iff {word : String} {kind : GrantKind} :
    GrantKind.ofText? word = some kind ↔ word = kind.text := by
  constructor
  · intro found
    unfold GrantKind.ofText? at found
    split_ifs at found with isAll isDefault isSpecific
    · exact Option.some.inj found ▸ isAll
    · exact Option.some.inj found ▸ isDefault
    · exact Option.some.inj found ▸ isSpecific
  · intro same
    rw [same]
    cases kind <;> rfl

namespace ResourceSet

variable (r s t : ResourceSet)

theorem union_comm : r.union s = s.union r := by
  apply ext
  simp [or_comm]

theorem union_assoc : (r.union s).union t = r.union (s.union t) := by
  apply ext
  simp [or_assoc]

@[simp] theorem union_self : r.union r = r := by
  apply ext
  simp

@[simp] theorem union_empty : r.union empty = r := by
  apply ext
  simp

theorem isEmpty_union_iff :
    (r.union s).isEmpty = true ↔ r.isEmpty = true ∧ s.isEmpty = true := by
  simp [isEmpty_iff, not_or, forall_and]

theorem union_eq_left_iff : r.union s = r ↔ s.subset r = true := by
  rw [subset_iff]
  constructor
  · intro same name member
    rw [← same, mem_union]
    exact Or.inr member
  · intro inner
    apply ext
    intro name
    rw [mem_union]
    exact or_iff_left_of_imp (inner name)

end ResourceSet

namespace Grant

/-- A kind and names make a grant when the kind is one of the three words and only a specific grant
is given names; the grant then has this kind and these names. -/
theorem make_eq_ok_iff {kind : Json} {names : List String} {g : Grant} :
    make kind names = .ok g ↔
      kind = .str g.kind.text ∧ g.resources = .ofList names ∧
        (g.kind = .specific ∨ names = []) := by
  unfold make
  cases read : readWord .grantKinds GrantKind.ofText? kind with
  | error e =>
    have other : kind ≠ .str g.kind.text := by
      intro same
      have known : readWord .grantKinds GrantKind.ofText? kind = .ok g.kind :=
        readWord_eq_ok_iff.mpr ⟨_, same, GrantKind.ofText?_eq_some_iff.mpr rfl⟩
      rw [read] at known
      cases known
    simp [other]
  | ok k =>
    obtain ⟨word, rfl, found⟩ := readWord_eq_ok_iff.mp read
    obtain rfl := GrantKind.ofText?_eq_some_iff.mp found
    cases k <;> cases g <;> cases names <;>
      simp [GrantKind.text, Grant.kind, resources, ofNames, ResourceSet.ofList, eq_comm]

theorem make_kind_names (g : Grant) : make (.str g.kind.text) g.resources.names = .ok g := by
  rw [make_eq_ok_iff]
  refine ⟨rfl, ?_, ?_⟩
  · apply ResourceSet.ext
    intro name
    rw [ResourceSet.mem_ofList]
    rfl
  · cases g with
    | all => exact Or.inr rfl
    | default => exact Or.inr rfl
    | specific resources => exact Or.inl rfl

theorem merge_comm (g h : Grant) : g.merge h = h.merge g := by
  cases g with
  | all => cases h <;> rfl
  | default => cases h <;> rfl
  | specific r =>
    cases h with
    | all => rfl
    | default => rfl
    | specific s => exact congrArg specific (r.union_comm s)

@[simp] theorem all_merge (g : Grant) : merge .all g = .all := by
  cases g <;> rfl

@[simp] theorem merge_all (g : Grant) : g.merge .all = .all := by
  cases g <;> rfl

theorem default_merge {g : Grant} (notAll : g ≠ .all) : merge .default g = .default := by
  cases g with
  | all => exact absurd rfl notAll
  | default => rfl
  | specific resources => rfl

theorem merge_default {g : Grant} (notAll : g ≠ .all) : g.merge .default = .default := by
  rw [merge_comm, default_merge notAll]

@[simp] theorem merge_empty (g : Grant) : g.merge .empty = g := by
  cases g with
  | all => rfl
  | default => rfl
  | specific resources => exact congrArg specific resources.union_empty

@[simp] theorem empty_merge (g : Grant) : merge .empty g = g := by
  rw [merge_comm, merge_empty]

@[simp] theorem merge_self (g : Grant) : g.merge g = g := by
  cases g with
  | all => rfl
  | default => rfl
  | specific resources => exact congrArg specific resources.union_self

/-- One special state decides both sides, the stronger one first; else sets are united. -/
theorem merge_assoc (g h k : Grant) : (g.merge h).merge k = g.merge (h.merge k) := by
  cases g with
  | all => simp
  | default =>
    cases h with
    | all => simp
    | default => cases k <;> rfl
    | specific s => cases k <;> rfl
  | specific r =>
    cases h with
    | all => simp
    | default => cases k <;> rfl
    | specific s =>
      cases k with
      | all => simp
      | default => rfl
      | specific t => exact congrArg specific (r.union_assoc s t)

theorem isEmpty_merge_iff {g h : Grant} :
    (g.merge h).isEmpty = true ↔ g.isEmpty = true ∧ h.isEmpty = true := by
  cases g with
  | all => simp [isEmpty]
  | default => cases h <;> simp [merge, isEmpty]
  | specific r =>
    cases h with
    | all => simp [isEmpty]
    | default => simp [merge, isEmpty]
    | specific s => exact r.isEmpty_union_iff s

/-- The default capability, merged with a set, hides a name of the set: it takes the set's place and
does not allow the name, unless that is the default one. -/
def Shadows (g h : Grant) (resource : String) : Prop :=
  g = .default ∧ (∃ names, h = .specific names ∧ resource ∈ names) ∧ resource ≠ defaultResource

theorem Shadows.allows {g h : Grant} {resource : String} (shadowed : g.Shadows h resource) :
    h.allows resource = true := by
  obtain ⟨-, ⟨names, same, member⟩, -⟩ := shadowed
  rw [same]
  exact ResourceSet.contains_iff.mpr member

/-- Merging allows what one of the sides allows, save the names that it hides. -/
theorem allows_merge_iff {g h : Grant} {resource : String} :
    (g.merge h).allows resource = true ↔
      (g.allows resource = true ∨ h.allows resource = true) ∧
        ¬ (g.Shadows h resource ∨ h.Shadows g resource) := by
  cases g with
  | all => simp [allows, Shadows]
  | default =>
    cases h with
    | all => simp [allows, Shadows]
    | default => simp [merge, allows, Shadows]
    | specific s =>
      by_cases asked : resource = defaultResource <;> simp [merge, allows, Shadows, asked]
  | specific r =>
    cases h with
    | all => simp [allows, Shadows]
    | default =>
      by_cases asked : resource = defaultResource <;> simp [merge, allows, Shadows, asked]
    | specific s => simp [merge, allows, Shadows]

/-- A name is hidden exactly where merging is not the union of what the sides allow. -/
theorem allows_merge_iff_or_iff {g h : Grant} {resource : String} :
    ((g.merge h).allows resource = true ↔ g.allows resource = true ∨ h.allows resource = true) ↔
      ¬ (g.Shadows h resource ∨ h.Shadows g resource) := by
  have held : g.Shadows h resource ∨ h.Shadows g resource →
      g.allows resource = true ∨ h.allows resource = true := fun shadowed =>
    shadowed.symm.imp Shadows.allows Shadows.allows
  constructor
  · intro union shadowed
    have allowed := union.mpr (held shadowed)
    exact (allows_merge_iff.mp allowed).2 shadowed
  · intro clear
    rw [allows_merge_iff]
    exact and_iff_left clear

/-- A grant absorbs what it includes, and the default capability absorbs every set besides. -/
theorem merge_eq_left_iff {g h : Grant} :
    g.merge h = g ↔
      g.includes h = true ∨ g = .default ∧ ∃ names, h = .specific names ∧ names.isEmpty = false := by
  cases g with
  | all => simp [includes]
  | default =>
    cases h with
    | all => simp [includes, isEmpty]
    | default => simp [merge, includes]
    | specific s => cases nothing : s.isEmpty <;> simp [merge, includes, isEmpty, nothing]
  | specific r =>
    cases h with
    | all => simp [includes]
    | default => simp [merge, includes]
    | specific s => simp [merge, includes, ResourceSet.union_eq_left_iff]

/-- What is absorbed without being included is a set with a name in it, by the default capability. -/
theorem merge_eq_left_and_not_includes_iff {g h : Grant} :
    g.merge h = g ∧ ¬ g.includes h = true ↔
      g = .default ∧ ∃ names, h = .specific names ∧ names.isEmpty = false := by
  rw [merge_eq_left_iff]
  constructor
  · intro absorbed
    exact absorbed.1.resolve_left absorbed.2
  · intro above
    refine ⟨Or.inr above, ?_⟩
    obtain ⟨isDefault, names, isSpecific, something⟩ := above
    simp [isDefault, isSpecific, includes, isEmpty, something]

/-- Merging is the join of a semilattice of all grants that can be made. A kind and names make a
grant when only the kind of sets comes with names, and every grant is made from its own kind and
names, a merge like any other. Merging is associative, commutative and idempotent, the empty grant
is neutral, all resources absorb every grant and the default capability every grant but that one;
what is empty was merged from empty grants. It is the union of what is allowed, except that the
default capability denies each name of a set that is merged with it, save the default name. A grant
absorbs what it includes, and what it absorbs it includes, unless it is the default capability and
absorbs a set that is not empty. -/
theorem merge_is_semilattice_join :
    (∀ kind names (g : Grant), make kind names = .ok g ↔
      kind = .str g.kind.text ∧ g.resources = .ofList names ∧
        (g.kind = .specific ∨ names = [])) ∧
    (∀ g : Grant, make (.str g.kind.text) g.resources.names = .ok g) ∧
    (∀ g h k : Grant, (g.merge h).merge k = g.merge (h.merge k)) ∧
    (∀ g h : Grant, g.merge h = h.merge g) ∧
    (∀ g : Grant, g.merge g = g) ∧
    (∀ g : Grant, merge .empty g = g ∧ g.merge .empty = g) ∧
    (∀ g : Grant, merge .all g = .all ∧ g.merge .all = .all) ∧
    (∀ g : Grant, g ≠ .all → merge .default g = .default ∧ g.merge .default = .default) ∧
    (∀ g h : Grant,
      make (.str (g.merge h).kind.text) (g.merge h).resources.names = .ok (g.merge h) ∧
      ((g.merge h).isEmpty = true ↔ g.isEmpty = true ∧ h.isEmpty = true)) ∧
    (∀ (g h : Grant) resource,
      (((g.merge h).allows resource = true ↔
          g.allows resource = true ∨ h.allows resource = true) ↔
        ¬ (g.Shadows h resource ∨ h.Shadows g resource)) ∧
      (g.Shadows h resource ∨ h.Shadows g resource → (g.merge h).allows resource = false)) ∧
    ∀ g h : Grant,
      (g.includes h = true → g.merge h = g) ∧
      (g.merge h = g ∧ ¬ g.includes h = true ↔
        g = .default ∧ ∃ names, h = .specific names ∧ names.isEmpty = false) := by
  refine ⟨fun _ _ _ => make_eq_ok_iff, make_kind_names, merge_assoc, merge_comm, merge_self,
    fun g => ⟨empty_merge g, merge_empty g⟩, fun g => ⟨all_merge g, merge_all g⟩,
    fun g other => ⟨default_merge other, merge_default other⟩,
    fun g h => ⟨make_kind_names (g.merge h), isEmpty_merge_iff⟩, ?_, ?_⟩
  · intro g h resource
    refine ⟨allows_merge_iff_or_iff, ?_⟩
    intro shadowed
    rw [Bool.eq_false_iff]
    intro allowed
    exact (allows_merge_iff.mp allowed).2 shadowed
  · intro g h
    refine ⟨?_, merge_eq_left_and_not_includes_iff⟩
    intro included
    exact merge_eq_left_iff.mpr (Or.inl included)

/-- The default capability merged with a set that has the default name in it, and two sets. -/
theorem merge_ofNames_is_semilattice_join :
    (ofNames ["a", defaultResource] ≠ .all ∧
      merge .default (ofNames ["a", defaultResource]) = .default) ∧
    (Shadows .default (ofNames ["a", defaultResource]) "a" ∧
      (merge .default (ofNames ["a", defaultResource])).allows "a" = false) ∧
    (includes (ofNames ["a", "b"]) (ofNames ["b"]) = true ∧
      merge (ofNames ["a", "b"]) (ofNames ["b"]) = ofNames ["a", "b"]) := by
  obtain ⟨-, -, -, -, -, -, -, absorbs, -, allowed, ordered⟩ := merge_is_semilattice_join
  have isSet : ofNames ["a", defaultResource] ≠ .all := by simp [ofNames]
  have member : "a" ∈ ResourceSet.ofList ["a", defaultResource] := by simp
  have shadowed : Shadows .default (ofNames ["a", defaultResource]) "a" :=
    ⟨rfl, ⟨_, rfl, member⟩, by decide⟩
  have included : includes (ofNames ["a", "b"]) (ofNames ["b"]) = true := by decide
  refine ⟨⟨isSet, (absorbs _ isSet).1⟩, ⟨shadowed, ?_⟩, included, ?_⟩
  · exact (allowed _ _ "a").2 (Or.inl shadowed)
  · exact (ordered _ _).1 included

/-- The default name of the set is not hidden, as the default capability allows it too. -/
example : (merge .default (ofNames ["a", defaultResource])).allows defaultResource = true := rfl

end Grant

end AccessControl
