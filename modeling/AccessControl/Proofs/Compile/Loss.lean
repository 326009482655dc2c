import AccessControl.Proofs.Compile.Union
import AccessControl.Proofs.Grant.Merge

/-!
# When more roles take a permission away

Merging is not monotone for the checks: the default capability absorbs named resources without
allowing them. This module says exactly when added sources turn a yes into a no.

* `metBy_lost_iff`: of names that met a resource, the joined names fail to meet it exactly when the
  resource was met by its own name alone, and the default name comes in without the name of all.
* `query_lost_iff`: so for the checks of compiled sources before and after more are added.
* `metBy_mono`: without the default name nothing is lost, whatever else is added.
-/
namespace AccessControl

namespace Grant

/-- Added names take a resource away exactly when it was named without a special name, and the
default name is added without the name of all resources. -/
theorem metBy_lost_iff (named more : String → Prop) (name : String) :
    (MetBy named name ∧ ¬ MetBy (fun n => named n ∨ more n) name) ↔
      (¬ named allResources ∧ ¬ named defaultResource ∧ named name) ∧
        more defaultResource ∧ ¬ more allResources := by
  constructor
  · rintro ⟨met, lost⟩
    have noAll : ¬ (named allResources ∨ more allResources) := fun hasAll => lost (Or.inl hasAll)
    rcases met with hasAll | ⟨-, held, rfl⟩ | ⟨notAll, notDefault, held⟩
    · exact absurd (Or.inl hasAll) noAll
    · exact absurd (Or.inr (Or.inl ⟨noAll, Or.inl held, rfl⟩)) lost
    · refine ⟨⟨notAll, notDefault, held⟩, ?_, fun hasAll => noAll (Or.inr hasAll)⟩
      by_contra unadded
      have noDefault : ¬ (named defaultResource ∨ more defaultResource) :=
        not_or.mpr ⟨notDefault, unadded⟩
      exact lost (Or.inr (Or.inr ⟨noAll, noDefault, Or.inl held⟩))
  · rintro ⟨⟨notAll, notDefault, held⟩, added, notMore⟩
    refine ⟨Or.inr (Or.inr ⟨notAll, notDefault, held⟩), ?_⟩
    rintro (hasAll | ⟨-, -, rfl⟩ | ⟨-, noDefault, -⟩)
    · exact hasAll.elim notAll notMore
    · exact notDefault held
    · exact noDefault (Or.inr added)

/-- Names without the default one take nothing away. -/
theorem metBy_mono {named more : String → Prop} (noDefault : ¬ more defaultResource) {name : String}
    (met : MetBy named name) : MetBy (fun n => named n ∨ more n) name := by
  by_contra lost
  exact noDefault ((metBy_lost_iff named more name).mp ⟨met, lost⟩).2.1

/-- The demand for no resource, once met, stays met. -/
theorem metBy_default_mono {named more : String → Prop} (met : MetBy named defaultResource) :
    MetBy (fun n => named n ∨ more n) defaultResource := by
  by_contra lost
  obtain ⟨⟨-, notDefault, held⟩, -⟩ := (metBy_lost_iff named more defaultResource).mp ⟨met, lost⟩
  exact notDefault held

/-- A grant is a set with a member exactly when the member was named without a special name. -/
theorem specific_iff_of_summarises {g : Grant} {named : String → Prop}
    (summary : g.Summarises named) (name : String) :
    (∃ resources, g = .specific resources ∧ name ∈ resources) ↔
      ¬ named allResources ∧ ¬ named defaultResource ∧ named name := by
  cases g with
  | all =>
    refine iff_of_false ?_ fun plain => plain.1 summary
    rintro ⟨_, differ, -⟩
    cases differ
  | default =>
    refine iff_of_false ?_ fun plain => plain.2.1 summary.2
    rintro ⟨_, differ, -⟩
    cases differ
  | specific resources =>
    constructor
    · rintro ⟨_, same, member⟩
      cases same
      exact ⟨summary.1, summary.2.1, (summary.2.2 name).mp member⟩
    · rintro ⟨-, -, held⟩
      exact ⟨resources, rfl, (summary.2.2 name).mpr held⟩

end Grant

namespace Index

/-- What is granted after more sources are added. -/
theorem summarises_compile_append (sources more : List RoleSource) (c : Context) (scope : String)
    (a : Access) :
    ((compile (sources ++ more)).grantAt ⟨c, scope⟩ a).Summarises fun name =>
      Granted sources c scope a name ∨ Granted more c scope a name :=
  (summarises_compile (sources ++ more) c scope a).congr fun name =>
    granted_append sources more c scope a name

theorem met_compile_append_iff (sources more : List RoleSource) (c : Context) (scope : String)
    (a : Access) (resource : String) :
    Demand.resource.met ((compile (sources ++ more)).grantAt ⟨c, scope⟩ a) resource = true ↔
      Grant.MetBy (fun name => Granted sources c scope a name ∨ Granted more c scope a name)
        resource :=
  Grant.allows_iff_of_summarises (summarises_compile_append sources more c scope a) resource

/-- The check of a spelled permission is lost exactly when the resource was one of a set, and the
added sources grant the default resource and not all. -/
theorem query_lost_iff (sources more : List RoleSource) (c : Context) (a : Access)
    {scope resource : String} (named : scope ≠ "") (free : Permission.DotFree scope)
    (plain : Permission.DotFree resource) :
    ((compile sources).query ⟨.resource, .within c⟩
        (.str (Permission.spelling ⟨scope, a.action, resource⟩)) = .ok true ∧
      (compile (sources ++ more)).query ⟨.resource, .within c⟩
        (.str (Permission.spelling ⟨scope, a.action, resource⟩)) = .ok false) ↔
    (∃ names, (compile sources).grantAt ⟨c, scope⟩ a = .specific names ∧ resource ∈ names) ∧
      Granted more c scope a defaultResource ∧ ¬ Granted more c scope a allResources := by
  rw [query_spelling _ _ c named free plain, query_spelling _ _ c named free plain,
    Grant.specific_iff_of_summarises (summarises_compile sources c scope a),
    ← Grant.metBy_lost_iff, ← met_compile_iff, ← met_compile_append_iff, ← meets_access_iff,
    ← meets_access_iff, Bool.not_eq_true, Except.ok.injEq, Except.ok.injEq]

theorem grantAt_append_eq_all {sources : List RoleSource} {key : BlockKey} {a : Access}
    (grantsAll : (compile sources).grantAt key a = .all) (more : List RoleSource) :
    (compile (sources ++ more)).grantAt key a = .all := by
  rw [grantAt_compile_append, grantsAll, Grant.all_merge]

/-- A permission that needs no resource stays held. -/
theorem ask_default_mono (sources more : List RoleSource) {reach : Reach} {p : Permission}
    (resourceless : p.resource = defaultResource)
    (held : (compile sources).ask ⟨.resource, reach⟩ p = true) :
    (compile (sources ++ more)).ask ⟨.resource, reach⟩ p = true := by
  refine ask_mono (fun c a met => ?_) held
  rw [resourceless] at met ⊢
  rw [met_compile_append_iff]
  exact Grant.metBy_default_mono ((met_compile_iff sources c p.scope a defaultResource).mp met)

/-- Sources without the default resource take nothing away from any check. -/
theorem ask_append_mono {more : List RoleSource}
    (noDefault : ∀ c scope a, ¬ Granted more c scope a defaultResource)
    (sources : List RoleSource) {check : Check} {p : Permission}
    (held : (compile sources).ask check p = true) :
    (compile (sources ++ more)).ask check p = true := by
  refine ask_mono (fun c a met => ?_) held
  obtain ⟨demand, reach⟩ := check
  cases demand with
  | resource =>
    rw [met_compile_append_iff]
    exact Grant.metBy_mono (noDefault c p.scope a)
      ((met_compile_iff sources c p.scope a p.resource).mp met)
  | action =>
    rw [met_action_compile_iff] at met ⊢
    exact (covered_append sources more c p.scope a).mpr (Or.inl met)

/-- Exactly when more roles take a permission away, and what they never take: a grant of all
resources, a permission that needs no resource, and, when they do not grant the default resource
themselves, anything. -/
theorem compile_append_loses_iff (sources more : List RoleSource) :
    (∀ c scope a resource, scope ≠ "" → Permission.DotFree scope → Permission.DotFree resource →
      (((compile sources).query ⟨.resource, .within c⟩
          (.str (Permission.spelling ⟨scope, Access.action a, resource⟩)) = .ok true ∧
        (compile (sources ++ more)).query ⟨.resource, .within c⟩
          (.str (Permission.spelling ⟨scope, Access.action a, resource⟩)) = .ok false) ↔
      (∃ names, (compile sources).grantAt ⟨c, scope⟩ a = .specific names ∧ resource ∈ names) ∧
        Granted more c scope a defaultResource ∧ ¬ Granted more c scope a allResources)) ∧
    (∀ key a, (compile sources).grantAt key a = .all →
      (compile (sources ++ more)).grantAt key a = .all) ∧
    (∀ reach value p, Permission.read value = .ok p → p.resource = defaultResource →
      (compile sources).query ⟨.resource, reach⟩ value = .ok true →
      (compile (sources ++ more)).query ⟨.resource, reach⟩ value = .ok true) ∧
    ((∀ c scope a, ¬ Granted more c scope a defaultResource) →
      ∀ check value, (compile sources).query check value = .ok true →
        (compile (sources ++ more)).query check value = .ok true) := by
  refine ⟨fun c scope a resource => query_lost_iff sources more c a,
    fun key a grantsAll => grantAt_append_eq_all grantsAll more, ?_, ?_⟩
  · intro reach value p read resourceless held
    rw [query_of_read _ _ read] at held ⊢
    exact congrArg Except.ok (ask_default_mono sources more resourceless (Except.ok.inj held))
  · intro noDefault check value held
    obtain ⟨p, read, asked⟩ := (query_eq_true_iff _ check value).mp held
    exact (query_eq_true_iff _ check value).mpr ⟨p, read, ask_append_mono noDefault sources asked⟩

end Index

theorem granted_localRole_iff {text : String} {p : Permission}
    (reads : Permission.read? (.str text) = some p) (c : Context) (scope : String) (a : Access)
    (resource : String) :
    Granted [localRole [text]] c scope a resource ↔
      Context.local = c ∧ p.Grants scope a resource := by
  rw [localRole, granted_singleton rfl]
  simp [Role.Grants, reads]

/-- The default resource takes a named one away; it takes neither all resources nor itself away, and
a grant of all resources takes nothing away. -/
theorem compile_localRole_loses :
    ((Index.compile [localRole ["Doc.Read.a"]]).query ⟨.resource, .within .local⟩
        (.str (Permission.spelling ⟨"Doc", .read, "a"⟩)) = .ok true ∧
      (Index.compile ([localRole ["Doc.Read.a"]] ++ [localRole ["Doc.Read"]])).query
        ⟨.resource, .within .local⟩ (.str (Permission.spelling ⟨"Doc", .read, "a"⟩)) =
          .ok false) ∧
    (Index.compile ([localRole ["Doc.Read.All"]] ++ [localRole ["Doc.Read"]])).grantAt
      ⟨.local, "Doc"⟩ .read = .all ∧
    (Index.compile ([localRole ["Doc.Read"]] ++ [localRole ["Doc.Read"]])).query
      ⟨.resource, .anywhere⟩ (.str "Doc.Read") = .ok true ∧
    (Index.compile ([localRole ["Doc.Read.a"]] ++ [localRole ["Doc.Write.All"]])).query
      ⟨.resource, .anywhere⟩ (.str "Doc.Read.a") = .ok true := by
  have reads : Permission.read? (.str "Doc.Read") = some ⟨"Doc", .read, defaultResource⟩ := rfl
  have writes : Permission.read? (.str "Doc.Write.All") = some ⟨"Doc", .write, "All"⟩ := rfl
  refine ⟨?_, ?_, ?_, ?_⟩
  · refine ((Index.compile_append_loses_iff _ _).1 .local "Doc" .read "a" (by decide) (by decide)
      (by decide)).mpr ⟨⟨.ofList ["a"], rfl, ResourceSet.mem_ofList.mpr (by decide)⟩, ?_, ?_⟩
    · exact (granted_localRole_iff reads _ _ _ _).mpr ⟨rfl, rfl, by decide, rfl⟩
    · intro grantsAll
      have same := ((granted_localRole_iff reads _ _ _ _).mp grantsAll).2.2.2
      exact Grant.allResources_ne_defaultResource same.symm
  · exact (Index.compile_append_loses_iff _ _).2.1 _ _ rfl
  · exact (Index.compile_append_loses_iff _ _).2.2.1 _ _ ⟨"Doc", .read, defaultResource⟩ rfl rfl rfl
  · refine (Index.compile_append_loses_iff _ _).2.2.2 (fun c scope a granted => ?_) _ _ rfl
    have same := ((granted_localRole_iff writes _ _ _ _).mp granted).2.2.2
    exact Grant.allResources_ne_defaultResource same

end AccessControl
