import AccessControl.Proofs.Compile.Union
import AccessControl.Proofs.Index.Demands

/-!
# What roles say about actions and contexts

A question for the action alone, and the one about contexts, are answered by the entries without
their resources: by the concrete actions that they cover on a scope, and by the scopes that they
mention. No merge empties a grant, so more roles never take such an answer back, though they may
well take the answer about a resource back.

* `meets_action_compile_iff`, `reports_compile_iff`: the answers, told by that;
* `ask_action_append`: they stay yes when roles are added.
-/
namespace AccessControl

namespace Index

/-- The action of a permission is held where each of its concrete actions is covered. -/
theorem meets_action_compile_iff (sources : List RoleSource) (c : Context) (p : Permission) :
    (compile sources).meets .action c p = true ↔
      ∀ a ∈ p.action.accesses, Covered sources c p.scope a := by
  rw [meets_iff]
  exact forall₂_congr fun a _ => met_action_compile_iff sources c p.scope a p.resource

theorem reports_compile_iff (sources : List RoleSource) (scope : String) (c : Context) :
    ((compile sources).contextsOf scope).reports c = true ↔ Mentioned sources c scope := by
  rw [reports_contextsOf_iff, mem_keys_compile_iff_mentioned]

/-- More roles never take an action away. -/
theorem ask_action_append {sources : List RoleSource} {reach : Reach} {p : Permission}
    (held : (compile sources).ask ⟨.action, reach⟩ p = true) (more : List RoleSource) :
    (compile (sources ++ more)).ask ⟨.action, reach⟩ p = true := by
  refine ask_mono (fun c a met => ?_) held
  rw [met_action_compile_iff] at met ⊢
  exact (covered_append sources more c p.scope a).mpr (Or.inl met)

/-- The questions for actions and contexts, told by the entries of the roles without their
resources. In one context the action of a permission is held exactly when each of its concrete
actions is covered there; in either, when one and the same context covers them all. A context is
reported for a scope exactly when an entry mentions the scope there. More roles take nothing of this
back. -/
theorem action_queries_compile_iff (sources : List RoleSource) :
    (∀ value p, Permission.read value = .ok p →
      (∀ c, ∃ answer, (compile sources).query ⟨.action, .within c⟩ value = .ok answer ∧
        (answer = true ↔ ∀ a ∈ p.action.accesses, Covered sources c p.scope a)) ∧
      ∃ answer, (compile sources).query ⟨.action, .anywhere⟩ value = .ok answer ∧
        (answer = true ↔ ∃ c, ∀ a ∈ p.action.accesses, Covered sources c p.scope a)) ∧
    (∀ value scope, Permission.readScope value = .ok scope →
      ∃ found, (compile sources).queryContext value = .ok found ∧
        ∀ c, found.reports c = true ↔ Mentioned sources c scope) ∧
    ∀ more,
      (∀ reach value, (compile sources).query ⟨.action, reach⟩ value = .ok true →
        (compile (sources ++ more)).query ⟨.action, reach⟩ value = .ok true) ∧
      ∀ value found, (compile sources).queryContext value = .ok found →
        ∃ wider, (compile (sources ++ more)).queryContext value = .ok wider ∧
          ∀ c, found.reports c = true → wider.reports c = true := by
  refine ⟨fun value p read => ?_, fun value scope read => ?_, fun more => ⟨?_, ?_⟩⟩
  · exact query_iff_of_meets _ read fun c => meets_action_compile_iff sources c p
  · exact ⟨_, queryContext_of_readScope _ read, reports_compile_iff sources scope⟩
  · intro reach value held
    obtain ⟨p, read, asked⟩ := (query_eq_true_iff _ _ value).mp held
    exact (query_eq_true_iff _ _ value).mpr ⟨p, read, ask_action_append asked more⟩
  · intro value found answered
    obtain ⟨scope, read, rfl⟩ := (queryContext_eq_ok_iff _ value found).mp answered
    refine ⟨_, queryContext_of_readScope _ read, fun c reported => ?_⟩
    rw [reports_compile_iff] at reported ⊢
    exact (mentioned_append sources more c scope).mpr (Or.inl reported)

end Index

/-- The default resource takes a named one away, and leaves its action and its context. -/
theorem action_queries_localRole :
    (Permission.read (.str "Doc.Read.a") = .ok ⟨"Doc", .read, "a"⟩ ∧
      ∃ answer, (Index.compile [localRole ["Doc.Read.a"]]).query ⟨.action, .within .local⟩
          (.str "Doc.Read.a") = .ok answer ∧
        (answer = true ↔
          ∀ a ∈ Action.read.accesses, Covered [localRole ["Doc.Read.a"]] .local "Doc" a)) ∧
    (Permission.readScope (.str "Doc") = .ok "Doc" ∧
      ∃ found, (Index.compile [localRole ["Doc.Read.a"]]).queryContext (.str "Doc") = .ok found ∧
        ∀ c, found.reports c = true ↔ Mentioned [localRole ["Doc.Read.a"]] c "Doc") ∧
    ((Index.compile [localRole ["Doc.Read.a"]]).query ⟨.resource, .anywhere⟩
        (.str "Doc.Read.a") = .ok true ∧
      (Index.compile ([localRole ["Doc.Read.a"]] ++ [localRole ["Doc.Read"]])).query
        ⟨.resource, .anywhere⟩ (.str "Doc.Read.a") = .ok false) ∧
    (Index.compile ([localRole ["Doc.Read.a"]] ++ [localRole ["Doc.Read"]])).query
      ⟨.action, .anywhere⟩ (.str "Doc.Read.a") = .ok true ∧
    ∃ wider, (Index.compile ([localRole ["Doc.Read.a"]] ++ [localRole ["Doc.Read"]])).queryContext
        (.str "Doc") = .ok wider ∧
      ∀ c, ContextMatch.local.reports c = true → wider.reports c = true := by
  have told := Index.action_queries_compile_iff [localRole ["Doc.Read.a"]]
  have read : Permission.read (.str "Doc.Read.a") = .ok ⟨"Doc", .read, "a"⟩ := rfl
  have about : Permission.readScope (.str "Doc") = .ok "Doc" := rfl
  refine ⟨⟨read, (told.1 _ _ read).1 .local⟩, ⟨about, told.2.1 _ _ about⟩, ⟨rfl, rfl⟩, ?_, ?_⟩
  · exact (told.2.2 _).1 .anywhere _ rfl
  · exact (told.2.2 _).2 _ .local rfl

end AccessControl
