import AccessControl.Authorization
import AccessControl.Proofs.Compile.Union
import AccessControl.Proofs.Index.Restrict
import Mathlib.Data.List.Perm.Basic

/-!
# Contexts and scopes are compiled apart

All roles are compiled into one index, but an entry writes under its own key alone. So the blocks of
some keys are what the entries of these keys give when they are compiled alone, in the same order
(`filter_ofEntries`, from one step `filter_grant` and the run `filter_foldl_grant`). Two consequences
are drawn:

* the blocks of a context stem from the roles of that context (`filter_compile_context`), so that
  sources with the same roles there answer alike in it, whatever else they hold;
* the blocks of a scope stem from the entries about that scope (`filter_compile_scope`), so that
  nothing said about it changes when all other entries are taken out of the roles.

The effective permissions of the two contexts are a division of the whole list (`permissions_perm`).
-/
namespace AccessControl

theorem Role.load_loaded (roles : List Role) : Role.load (roles.map RoleSource.loaded) = roles := by
  unfold Role.load
  rw [List.filterMap_map]
  exact List.filterMap_some

/-- The test picks the entries about a scope; of entries that cannot be used it may say anything. -/
def Permission.Picks (test : Json → Bool) (scope : String) : Prop :=
  ∀ value p, Permission.read? value = some p → (test value = true ↔ p.scope = scope)

def Role.keeping (test : Json → Bool) (r : Role) : Role :=
  { r with permissions := r.permissions.filter test }

/-- The value names the scope, whatever its action and resource. -/
def Permission.isAbout (scope : String) (value : Json) : Bool :=
  match Permission.readScope value with
  | .ok named => named = scope
  | .error _ => false

theorem Permission.picks_isAbout (scope : String) :
    Permission.Picks (Permission.isAbout scope) scope := by
  intro value p accepted
  have read := Permission.read?_eq_some_iff.mp accepted
  rw [Permission.isAbout, Permission.readScope_of_read read, decide_eq_true_iff]

/-- The entries of the roles of a context are the entries of that context. -/
theorem Role.allEntries_filter_context (roles : List Role) (c : Context) :
    Role.allEntries (roles.filter fun r => r.context = c) =
      (Role.allEntries roles).filter fun e => e.key.context = c := by
  have uniform : ∀ r : Role, ∀ e ∈ r.entries, decide (e.key.context = c) = decide (r.context = c) := by
    intro r e member
    obtain ⟨value, -, found⟩ := List.mem_filterMap.mp member
    obtain ⟨p, -, rfl⟩ := Option.map_eq_some_iff.mp found
    rfl
  exact (filter_flatMap_of_uniform uniform roles).symm

/-- Taking other entries out of a role leaves its entries about the scope. -/
theorem Role.entries_keeping {test : Json → Bool} {scope : String}
    (picks : Permission.Picks test scope) (r : Role) :
    (r.keeping test).entries = r.entries.filter fun e => e.key.scope = scope := by
  unfold Role.entries Role.keeping
  rw [List.filterMap_filter, List.filter_filterMap]
  apply List.filterMap_congr
  intro value _
  -- the test is only known on values that are accepted; the others give no entry either way
  cases accepted : Permission.read? value with
  | none =>
    rw [Option.map_none, ite_self]
    rfl
  | some p =>
    have about := picks value p accepted
    have decided : test value = decide (p.scope = scope) :=
      Bool.eq_iff_iff.mpr (about.trans decide_eq_true_iff.symm)
    rw [Option.map_some, Option.filter_some, decided]
    rfl

/-- Roles without the entries about other scopes have the entries of the scope. -/
theorem Role.allEntries_keeping {test : Json → Bool} {scope : String}
    (picks : Permission.Picks test scope) (roles : List Role) :
    Role.allEntries (roles.map (Role.keeping test)) =
      (Role.allEntries roles).filter fun e => e.key.scope = scope := by
  unfold Role.allEntries
  rw [List.filter_flatMap, List.flatMap_map]
  exact List.flatMap_congr fun r _ => Role.entries_keeping picks r

namespace Index

/-- Step: an entry of a kept key is granted in the part as in the whole, and any other leaves the
part alone. -/
theorem filter_grant (keep : BlockKey → Bool) (i : Index) (e : Entry) :
    (i.grant e).filter (fun key _ => keep key) =
      if keep e.key then (i.filter fun key _ => keep key).grant e
      else i.filter fun key _ => keep key := by
  rw [grant, filter_insert]
  split
  · rename_i kept
    rw [grant, find?_filter_of_keep keep kept]
  · rfl

/-- Run: the part of an index after some entries is the part before, with the entries of kept keys
granted. -/
theorem filter_foldl_grant (keep : BlockKey → Bool) (entries : List Entry) (i : Index) :
    (entries.foldl grant i).filter (fun key _ => keep key) =
      (entries.filter fun e => keep e.key).foldl grant (i.filter fun key _ => keep key) := by
  -- over every index that the run may have come to
  induction entries generalizing i with
  | nil => rfl
  | cons e rest ih =>
    rw [List.foldl_cons, ih, filter_grant, List.filter_cons]
    by_cases kept : keep e.key = true
    · rw [if_pos kept, if_pos kept, List.foldl_cons]
    · rw [if_neg kept, if_neg kept]

theorem filter_ofEntries (keep : BlockKey → Bool) (entries : List Entry) :
    (ofEntries entries).filter (fun key _ => keep key) =
      ofEntries (entries.filter fun e => keep e.key) :=
  filter_foldl_grant keep entries empty

theorem compile_loaded (roles : List Role) :
    compile (roles.map RoleSource.loaded) = ofEntries (Role.allEntries roles) := by
  rw [compile, ofRoles, Role.load_loaded]

/-- The blocks of a context are what the roles of the context compile to. -/
theorem filter_compile_context (sources : List RoleSource) (c : Context) :
    (compile sources).filter (fun key _ => key.context = c) =
      compile (((Role.load sources).filter fun r => r.context = c).map RoleSource.loaded) := by
  rw [compile_loaded, Role.allEntries_filter_context, compile, ofRoles]
  exact filter_ofEntries (fun key => key.context = c) _

/-- The blocks of a scope are what the entries about the scope compile to. -/
theorem filter_compile_scope {test : Json → Bool} {scope : String}
    (picks : Permission.Picks test scope) (sources : List RoleSource) :
    (compile sources).filter (fun key _ => key.scope = scope) =
      compile (((Role.load sources).map (Role.keeping test)).map RoleSource.loaded) := by
  rw [compile_loaded, Role.allEntries_keeping picks, compile, ofRoles]
  exact filter_ofEntries (fun key => key.scope = scope) _

/-- Sources with the same roles in a context have the same blocks there. -/
theorem filter_compile_context_congr {sources others : List RoleSource} {c : Context}
    (same : (Role.load sources).filter (fun r => r.context = c) =
      (Role.load others).filter fun r => r.context = c) :
    (compile sources).filter (fun key _ => key.context = c) =
      (compile others).filter fun key _ => key.context = c := by
  rw [filter_compile_context, filter_compile_context, same]

/-- A question within a context is answered by the blocks of that context. -/
theorem query_within_congr {i j : Index} {c : Context}
    (same : i.filter (fun key _ => key.context = c) = j.filter fun key _ => key.context = c)
    (demand : Demand) (value : Json) :
    i.query ⟨demand, .within c⟩ value = j.query ⟨demand, .within c⟩ value := by
  refine query_congr_on fun p _ d looked => ?_
  have here : d = c := List.mem_singleton.mp looked
  subst here
  have kept : decide ((⟨d, p.scope⟩ : BlockKey).context = d) = true := decide_eq_true rfl
  have part := find?_filter_of_keep (fun key => key.context = d) kept
  rw [← part i, ← part j, same]

/-- A part with the blocks of a scope finds what the whole finds for the scope. -/
theorem find?_of_filter_scope {i j : Index} {scope : String}
    (part : i.filter (fun key _ => key.scope = scope) = j) (c : Context) :
    j.find? ⟨c, scope⟩ = i.find? ⟨c, scope⟩ := by
  rw [← part]
  exact find?_filter_of_keep (fun key => key.scope = scope) (decide_eq_true rfl) i

end Index

namespace Authorization

theorem index_build (userId : Json) (sources : List RoleSource) :
    (build userId sources).index = .compile sources :=
  Index.compile_loaded (Role.load sources)

/-- The effective permissions of a context are the flattened blocks of the context. -/
theorem permissionsIn_eq (a : Authorization) (c : Context) :
    a.permissionsIn c = (a.index.filter fun key _ => key.context = c).flatten := by
  rw [Index.flatten_filter fun key => key.context = c]
  rfl

/-- The effective permissions of the two contexts together are all of them. -/
theorem permissions_perm (a : Authorization) :
    (a.permissionsIn .local ++ a.permissionsIn .global).Perm a.permissions := by
  have rest : a.permissionsIn .global =
      a.permissions.filter fun p => !decide (p.context = .local) := by
    refine List.filter_congr fun p _ => ?_
    cases p.context <;> rfl
  rw [rest]
  exact List.filter_append_perm _ _

end Authorization

/-- Contexts and scopes are compiled apart. The roles of one context compile to the blocks of that
context, so that nothing asked or listed there depends on the other roles. The entries about one
scope compile to the blocks of that scope, so that nothing asked about it depends on the other
entries. And the lists of effective permissions of the two contexts divide the whole list in its
order: each entry is in the one of its own context, as often as in the whole. -/
theorem Index.compile_isolates :
    (∀ (sources : List RoleSource) (c : Context),
      (compile (((Role.load sources).filter fun r => r.context = c).map .loaded)).blocks =
        (compile sources).blocks.filter fun entry => entry.1.context = c) ∧
    (∀ (sources others : List RoleSource) (c : Context),
      ((Role.load sources).filter fun r => r.context = c) =
        ((Role.load others).filter fun r => r.context = c) →
      (∀ demand value, (compile sources).query ⟨demand, .within c⟩ value =
        (compile others).query ⟨demand, .within c⟩ value) ∧
      ∀ user other, (Authorization.build user sources).permissionsIn c =
        (Authorization.build other others).permissionsIn c) ∧
    (∀ (sources others : List RoleSource) (scope : String) (test : Json → Bool),
      Permission.Picks test scope →
      Role.load others = (Role.load sources).map (Role.keeping test) →
      (compile others).blocks =
        ((compile sources).blocks.filter fun entry => entry.1.scope = scope) ∧
      ∀ value, Permission.readScope value = .ok scope →
        (∀ check, (compile others).query check value = (compile sources).query check value) ∧
        (compile others).queryContext value = (compile sources).queryContext value) ∧
    ∀ a : Authorization,
      (∀ c, (a.permissionsIn c).Sublist a.permissions ∧
        ∀ e, e ∈ a.permissionsIn c ↔ e ∈ a.permissions ∧ e.context = c) ∧
      (a.permissionsIn .local ++ a.permissionsIn .global).Perm a.permissions := by
  refine ⟨fun sources c => ?_, fun sources others c same => ?_,
    fun sources others scope test picks reduced => ?_, fun a => ⟨fun c => ?_, a.permissions_perm⟩⟩
  · rw [← filter_compile_context]
    rfl
  · have part := filter_compile_context_congr same
    refine ⟨query_within_congr part, fun user other => ?_⟩
    rw [Authorization.permissionsIn_eq, Authorization.permissionsIn_eq, Authorization.index_build,
      Authorization.index_build, part]
  · -- both sides are compiled from what they load, which is where the entries are taken out
    have loads : compile others = compile ((Role.load others).map .loaded) := by
      rw [compile_loaded]
      rfl
    have part : (compile sources).filter (fun key _ => key.scope = scope) = compile others := by
      rw [loads, reduced]
      exact filter_compile_scope picks sources
    have found := find?_of_filter_scope part
    refine ⟨congrArg blocks part.symm, fun value about => ⟨fun check => ?_, ?_⟩⟩
    · refine query_congr_on fun p read c _ => ?_
      have named : scope = p.scope :=
        Except.ok.inj (about.symm.trans (Permission.readScope_of_read read))
      rw [← named, found]
    · refine queryContext_congr_on fun named read c => ?_
      have same : scope = named := Except.ok.inj (about.symm.trans read)
      rw [← same, found]
  · refine ⟨List.filter_sublist, fun e => ?_⟩
    rw [Authorization.permissionsIn, List.mem_filter, decide_eq_true_iff]

/-- In place of the writer of `dividedRoles` a stranger holds a role of the global context. -/
def strangeRoles : List RoleSource :=
  [.data (.obj [("id", .int 3), ("context", .str "global"), ("permissions", .str "Doc")]),
    .loaded ⟨.str "reader", .str "reader", .local, [.str "Report.Read.monthly"], .null⟩]

/-- The local context does not tell the writer from the stranger, and an entry about reports does
not show where a malformed question about documents is asked. -/
theorem compile_strangeRoles_isolates :
    ((Role.load dividedRoles).filter (fun r => r.context = .local) =
        (Role.load strangeRoles).filter (fun r => r.context = .local) ∧
      (Authorization.build (.str "ann") dividedRoles).permissionsIn .local =
        (Authorization.build .null strangeRoles).permissionsIn .local) ∧
    (Permission.Picks (Permission.isAbout "Doc") "Doc" ∧
      Role.load [localRole ["Doc.Read.a", "Doc"]] =
        (Role.load [localRole ["Doc.Read.a", "Report.Write", "Doc"]]).map
          (Role.keeping (Permission.isAbout "Doc")) ∧
      Permission.readScope (.str "Doc.Reed") = .ok "Doc" ∧
      (Index.compile [localRole ["Doc.Read.a", "Doc"]]).queryContext (.str "Doc.Reed") =
        (Index.compile [localRole ["Doc.Read.a", "Report.Write", "Doc"]]).queryContext
          (.str "Doc.Reed")) := by
  have sameRoles : (Role.load dividedRoles).filter (fun r => r.context = .local) =
      (Role.load strangeRoles).filter fun r => r.context = .local := rfl
  have picks := Permission.picks_isAbout "Doc"
  have reduced : Role.load [localRole ["Doc.Read.a", "Doc"]] =
      (Role.load [localRole ["Doc.Read.a", "Report.Write", "Doc"]]).map
        (Role.keeping (Permission.isAbout "Doc")) := rfl
  have about : Permission.readScope (.str "Doc.Reed") = .ok "Doc" := rfl
  refine ⟨⟨sameRoles, ?_⟩, picks, reduced, about, ?_⟩
  · exact (Index.compile_isolates.2.1 _ _ _ sameRoles).2 _ _
  · exact ((Index.compile_isolates.2.2.1 _ _ _ _ picks reduced).2 _ about).2

end AccessControl
