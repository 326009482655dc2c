import AccessControl.Proofs.Compile.Actions
import AccessControl.Proofs.Compile.Invariant

/-!
# The hierarchy of the questions

Of every index a full question is the strongest, the question for the action comes next and the one
about contexts is the weakest. Where all names in the sets can be asked for (`Index.Askable`), an
action is held exactly when it is held on some resource, since every grant that is not empty allows
a single segment (`Grant.exists_dotFree_allows_iff`). Compiled indexes are askable, and report a
context exactly where one of the two concrete actions is held.
-/
namespace AccessControl

/-- A grant is not empty when it allows a single segment: any one of all resources, the name of the
default capability, or a member of the set. -/
theorem Grant.exists_dotFree_allows_iff {g : Grant}
    (free : ∀ name ∈ g.resources, Permission.DotFree name) (asked : String) :
    (∃ resource, Permission.DotFree resource ∧ Demand.resource.met g resource = true) ↔
      Demand.action.met g asked = true := by
  constructor
  · rintro ⟨resource, -, allowed⟩
    exact Demand.action_of_resource allowed
  · intro something
    cases g with
    | all => exact ⟨"", by decide, rfl⟩
    | default => exact ⟨defaultResource, Permission.dotFree_defaultResource, rfl⟩
    | specific resources =>
      have nonempty : resources.names ≠ [] := by
        intro nothing
        have vacant : (specific resources).isEmpty = true := List.isEmpty_iff.mpr nothing
        rw [Demand.met, vacant] at something
        cases something
      obtain ⟨name, member⟩ := List.exists_mem_of_ne_nil _ nonempty
      exact ⟨name, free name member, ResourceSet.contains_iff.mpr member⟩

namespace Index

/-- Every name in a set of the index is a single segment, so that it can be asked for. -/
def Askable (i : Index) : Prop :=
  ∀ entry ∈ i.blocks, ∀ a, ∀ name ∈ (entry.2.grant a).resources, Permission.DotFree name

theorem Askable.dotFree_of_mem_grantAt {i : Index} (askable : i.Askable) (key : BlockKey)
    (a : Access) : ∀ name ∈ (i.grantAt key a).resources, Permission.DotFree name := by
  intro name member
  cases found : i.find? key with
  | none =>
    rw [grantAt, found, Option.getD_none, Block.grant_empty] at member
    exact absurd member (ResourceSet.not_mem_empty name)
  | some block =>
    rw [grantAt_of_find? found] at member
    exact askable _ ((find?_eq_some_iff i key block).mp found) a name member

theorem askable_compile (sources : List RoleSource) : (compile sources).Askable := by
  intro entry listed a name member
  have kept := wellFormed_compile sources entry.1 entry.2 ((find?_eq_some_iff _ _ _).mpr listed)
  exact ((kept.plain a).ordinary name member).dotFree

/-- An action is held in a context exactly when it is held there on some resource. -/
theorem Askable.meets_action_iff {i : Index} (askable : i.Askable) (c : Context) (scope : String)
    (a : Access) (asked : String) :
    i.meets .action c ⟨scope, a.action, asked⟩ = true ↔
      ∃ resource, Permission.DotFree resource ∧
        i.meets .resource c ⟨scope, a.action, resource⟩ = true := by
  simp only [meets_access_iff]
  exact (Grant.exists_dotFree_allows_iff (askable.dotFree_of_mem_grantAt ⟨c, scope⟩ a) asked).symm

/-- So it is wherever a question looks: the context is chosen along with the resource. -/
theorem Askable.ask_action_iff {i : Index} (askable : i.Askable) (reach : Reach) (scope : String)
    (a : Access) (asked : String) :
    i.ask ⟨.action, reach⟩ ⟨scope, a.action, asked⟩ = true ↔
      ∃ resource, Permission.DotFree resource ∧
        i.ask ⟨.resource, reach⟩ ⟨scope, a.action, resource⟩ = true := by
  simp only [ask_iff, askable.meets_action_iff]
  constructor
  · rintro ⟨c, looked, resource, plain, held⟩
    exact ⟨resource, plain, c, looked, held⟩
  · rintro ⟨resource, plain, c, looked, held⟩
    exact ⟨c, looked, resource, plain, held⟩

/-- The question for an action is asked without a resource. -/
theorem query_action_text (i : Index) (check : Check) {scope : String} (named : scope ≠ "")
    (free : Permission.DotFree scope) (action : Action) :
    i.query check (.str (Permission.text ⟨scope, action, defaultResource⟩)) =
      .ok (i.ask check ⟨scope, action, defaultResource⟩) :=
  query_of_read i check
    (Permission.read_text named free Permission.dotFree_defaultResource)

/-- A compiled index reports a context where one of the two concrete actions is held. -/
theorem reports_compile_iff_meets (sources : List RoleSource) (scope : String) (c : Context)
    (resource : String) :
    ((compile sources).contextsOf scope).reports c = true ↔
      (compile sources).meets .action c ⟨scope, .read, resource⟩ = true ∨
        (compile sources).meets .action c ⟨scope, .write, resource⟩ = true := by
  rw [reports_compile_iff, mentioned_iff, meets_action_compile_iff, meets_action_compile_iff]
  simp only [Action.accesses, List.mem_singleton, forall_eq]
  constructor
  · rintro ⟨a, covered⟩
    cases a with
    | read => exact Or.inl covered
    | write => exact Or.inr covered
  · rintro (covered | covered)
    · exact ⟨.read, covered⟩
    · exact ⟨.write, covered⟩

/-- The questions to an index are ordered. Of every index and every permission: what is held in a
context has its action held there, and that only in a context that is reported; a question that
looks anywhere is the disjunction of those that look in one context; and both actions are held in a
context where each of the two is. If all names can be asked for, a concrete action is held exactly
when it is held on some resource. Every compiled index is such, and reports a context exactly where
one of the two concrete actions is held. -/
theorem queries_are_ordered :
    (∀ (i : Index) value p, Permission.read value = .ok p →
      (∀ c,
        (i.query ⟨.resource, .within c⟩ value = .ok true →
          i.query ⟨.action, .within c⟩ value = .ok true) ∧
        (i.query ⟨.action, .within c⟩ value = .ok true →
          ∃ found, i.queryContext value = .ok found ∧ found.reports c = true)) ∧
      (∀ demand, ∃ here there,
        i.query ⟨demand, .within .local⟩ value = .ok here ∧
        i.query ⟨demand, .within .global⟩ value = .ok there ∧
        i.query ⟨demand, .anywhere⟩ value = .ok (here || there)) ∧
      (p.action = .readWrite → ∀ demand c, ∃ reading writing,
        i.query ⟨demand, .within c⟩
          (.str (Permission.spelling ⟨p.scope, .read, p.resource⟩)) = .ok reading ∧
        i.query ⟨demand, .within c⟩
          (.str (Permission.spelling ⟨p.scope, .write, p.resource⟩)) = .ok writing ∧
        i.query ⟨demand, .within c⟩ value = .ok (reading && writing))) ∧
    (∀ i : Index, i.Askable → ∀ scope, scope ≠ "" → Permission.DotFree scope →
      ∀ (a : Access) reach,
        i.query ⟨.action, reach⟩
            (.str (Permission.text ⟨scope, a.action, defaultResource⟩)) = .ok true ↔
          ∃ resource, Permission.DotFree resource ∧
            i.query ⟨.resource, reach⟩
              (.str (Permission.spelling ⟨scope, a.action, resource⟩)) = .ok true) ∧
    ∀ sources : List RoleSource, (compile sources).Askable ∧
      ∀ value scope, Permission.readScope value = .ok scope →
        ∃ found, (compile sources).queryContext value = .ok found ∧
          ∀ c, found.reports c = true ↔
            (compile sources).query ⟨.action, .within c⟩
                (.str (Permission.text ⟨scope, .read, defaultResource⟩)) = .ok true ∨
              (compile sources).query ⟨.action, .within c⟩
                (.str (Permission.text ⟨scope, .write, defaultResource⟩)) = .ok true := by
  refine ⟨fun i value p read => ⟨fun c => ⟨?_, ?_⟩, fun demand => ?_, ?_⟩, ?_,
    fun sources => ⟨askable_compile sources, ?_⟩⟩
  · rw [query_of_read _ _ read, query_of_read _ _ read, ask_within, ask_within, Except.ok.injEq,
      Except.ok.injEq]
    exact meets_action_of_resource
  · rw [query_of_read _ _ read, ask_within, Except.ok.injEq]
    intro held
    refine ⟨_, queryContext_of_readScope i (Permission.readScope_of_read read), ?_⟩
    exact (reports_contextsOf_iff i p.scope c).mpr (mem_keys_of_meets held)
  · refine ⟨_, _, query_of_read _ _ read, query_of_read _ _ read, ?_⟩
    rw [query_of_read _ _ read, ask_anywhere, ask_within, ask_within]
  · obtain ⟨scope, action, resource⟩ := p
    rintro rfl demand c
    obtain ⟨named, free, plain⟩ := Permission.dotFree_of_read read
    refine ⟨_, _, query_spelling i demand c named free plain,
      query_spelling i demand c named free plain, ?_⟩
    rw [query_of_read _ _ read, ask_within, meets_readWrite]
  · intro i askable scope named free a reach
    rw [query_action_text i _ named free, Except.ok.injEq, askable.ask_action_iff]
    refine exists_congr fun resource => and_congr_right fun plain => ?_
    rw [query_of_read _ _ (Permission.read_spelling named free plain), Except.ok.injEq]
  · intro value scope read
    obtain ⟨named, free⟩ := Permission.dotFree_of_readScope read
    refine ⟨_, queryContext_of_readScope _ read, fun c => ?_⟩
    rw [query_action_text _ _ named free, query_action_text _ _ named free, Except.ok.injEq,
      Except.ok.injEq, ask_within, ask_within, reports_compile_iff_meets]

end Index

/-- Of the index with a block in which nothing is granted and with the name of all resources in a
set, each question gives the weaker one. -/
theorem queries_unevenIndex_are_ordered :
    (Permission.read (.str "Doc.ReadWrite.a") = .ok ⟨"Doc", .readWrite, "a"⟩ ∧
      unevenIndex.query ⟨.resource, .within .local⟩ (.str "Doc.ReadWrite.a") = .ok true ∧
      unevenIndex.query ⟨.action, .within .local⟩ (.str "Doc.ReadWrite.a") = .ok true ∧
      ∃ found, unevenIndex.queryContext (.str "Doc.ReadWrite.a") = .ok found ∧
        found.reports .local = true) ∧
    (unevenIndex.Askable ∧ ∃ resource, Permission.DotFree resource ∧
      unevenIndex.query ⟨.resource, .anywhere⟩
        (.str (Permission.spelling ⟨"Doc", .write, resource⟩)) = .ok true) ∧
    Permission.readScope (.str "Doc.Reed") = .ok "Doc" ∧
    ∃ found, (Index.compile [localRole ["Doc.Read.a"]]).queryContext (.str "Doc.Reed") = .ok found ∧
      (found.reports .global = true ↔
        (Index.compile [localRole ["Doc.Read.a"]]).query ⟨.action, .within .global⟩
            (.str (Permission.text ⟨"Doc", .read, defaultResource⟩)) = .ok true ∨
          (Index.compile [localRole ["Doc.Read.a"]]).query ⟨.action, .within .global⟩
            (.str (Permission.text ⟨"Doc", .write, defaultResource⟩)) = .ok true) := by
  have read : Permission.read (.str "Doc.ReadWrite.a") = .ok ⟨"Doc", .readWrite, "a"⟩ := rfl
  have held : unevenIndex.query ⟨.resource, .within .local⟩ (.str "Doc.ReadWrite.a") = .ok true := rfl
  have ordered := (Index.queries_are_ordered.1 unevenIndex _ _ read).1 .local
  have action := ordered.1 held
  have askable : unevenIndex.Askable := by
    have plain : ∀ entry ∈ unevenIndex.blocks,
        (∀ name ∈ entry.2.read.resources.names, Permission.DotFree name) ∧
          ∀ name ∈ entry.2.write.resources.names, Permission.DotFree name := by decide
    intro entry listed a
    cases a with
    | read => exact (plain entry listed).1
    | write => exact (plain entry listed).2
  have about : Permission.readScope (.str "Doc.Reed") = .ok "Doc" := rfl
  obtain ⟨found, answered, told⟩ :=
    (Index.queries_are_ordered.2.2 [localRole ["Doc.Read.a"]]).2 _ _ about
  refine ⟨⟨read, held, action, ordered.2 action⟩, ⟨askable, ?_⟩, about, found, answered, told .global⟩
  exact (Index.queries_are_ordered.2.1 unevenIndex askable "Doc" (by decide) (by decide) .write
    .anywhere).mp rfl

end AccessControl
