import AccessControl.Compile
import AccessControl.Proofs.Grant.Summary
import AccessControl.Proofs.Index.Lookup

/-!
# The meaning of compiled roles

`Granted` says what a list of role sources grants, entry by entry and without an index: a role that
loads has the context, and one of its entries reads as the scope, an action with the concrete action
in it, and the resource. Compiling is a fold over the same entries, and after every entry the grant
at each key summarises the names read so far:

* `summarises_grant`: one more entry adds its name to the keys and actions it is for;
* `summarises_foldl`, `summarises_compile`: so does a whole run;
* `keys_foldl`, `keys_compile`: the keys stand in the order in which they are first read, and there
  is a block exactly where something is granted (`mem_keys_compile_iff`);
* the answers of the full checks are told by `Granted` alone, through `met_compile_iff`, and those
  that look past the resource by `Covered` and `Mentioned` (`met_action_compile_iff`,
  `mem_keys_compile_iff_mentioned`).
-/
namespace AccessControl

theorem RoleSource.role?_data {value : Json} {r : Role} (loads : Role.ofJson value = .ok r) :
    (RoleSource.data value).role? = some r := by
  rw [RoleSource.role?, loads]
  rfl

/-- The permission is for the scope, the concrete action and the resource. -/
def Permission.Grants (p : Permission) (scope : String) (a : Access) (resource : String) : Prop :=
  p.scope = scope ∧ a ∈ p.action.accesses ∧ p.resource = resource

/-- An entry of the role reads as such a permission. -/
def Role.Grants (r : Role) (scope : String) (a : Access) (resource : String) : Prop :=
  ∃ value ∈ r.permissions, ∃ p, Permission.read? value = some p ∧ p.Grants scope a resource

/-- Some role that loads has the context and such an entry. -/
def Granted (sources : List RoleSource) (c : Context) (scope : String) (a : Access)
    (resource : String) : Prop :=
  ∃ r ∈ Role.load sources, r.context = c ∧ r.Grants scope a resource

/-- Some role that loads has the context and an entry that reads as the scope and an action with the
concrete action in it, whatever the resource. -/
def Covered (sources : List RoleSource) (c : Context) (scope : String) (a : Access) : Prop :=
  ∃ r ∈ Role.load sources, r.context = c ∧
    ∃ value ∈ r.permissions, ∃ p, Permission.read? value = some p ∧
      p.scope = scope ∧ a ∈ p.action.accesses

/-- Some role that loads has the context and an entry that reads as the scope, whatever the action
and the resource. -/
def Mentioned (sources : List RoleSource) (c : Context) (scope : String) : Prop :=
  ∃ r ∈ Role.load sources, r.context = c ∧
    ∃ value ∈ r.permissions, ∃ p, Permission.read? value = some p ∧ p.scope = scope

theorem covered_iff (sources : List RoleSource) (c : Context) (scope : String) (a : Access) :
    Covered sources c scope a ↔ ∃ resource, Granted sources c scope a resource := by
  constructor
  · rintro ⟨r, loaded, context, value, listed, p, accepted, named, concrete⟩
    exact ⟨p.resource, r, loaded, context, value, listed, p, accepted, named, concrete, rfl⟩
  · rintro ⟨resource, r, loaded, context, value, listed, p, accepted, named, concrete, -⟩
    exact ⟨r, loaded, context, value, listed, p, accepted, named, concrete⟩

/-- An entry about a scope is for some concrete action, since every action has one. -/
theorem mentioned_iff (sources : List RoleSource) (c : Context) (scope : String) :
    Mentioned sources c scope ↔ ∃ a, Covered sources c scope a := by
  constructor
  · rintro ⟨r, loaded, context, value, listed, p, accepted, named⟩
    obtain ⟨a, concrete⟩ := List.exists_mem_of_ne_nil _ p.action.accesses_ne_nil
    exact ⟨a, r, loaded, context, value, listed, p, accepted, named, concrete⟩
  · rintro ⟨a, r, loaded, context, value, listed, p, accepted, named, -⟩
    exact ⟨r, loaded, context, value, listed, p, accepted, named⟩

/-- The entry goes into the key's block, is for the concrete action and has the resource. -/
def Entry.Names (e : Entry) (key : BlockKey) (a : Access) (resource : String) : Prop :=
  e.key = key ∧ a ∈ e.permission.action.accesses ∧ e.permission.resource = resource

theorem granted_iff_entry (sources : List RoleSource) (c : Context) (scope : String) (a : Access)
    (resource : String) :
    Granted sources c scope a resource ↔
      ∃ e ∈ Role.allEntries (Role.load sources), e.Names ⟨c, scope⟩ a resource := by
  unfold Granted Role.Grants Permission.Grants Role.allEntries Role.entries Entry.Names Entry.key
  constructor
  · rintro ⟨r, loaded, rfl, value, listed, p, accepted, rfl, concrete, rfl⟩
    refine ⟨⟨r.context, p⟩, List.mem_flatMap.mpr ⟨r, loaded, ?_⟩, rfl, concrete, rfl⟩
    exact List.mem_filterMap.mpr ⟨value, listed, by rw [accepted, Option.map_some]⟩
  · rintro ⟨e, member, key, concrete, rfl⟩
    obtain ⟨r, loaded, member⟩ := List.mem_flatMap.mp member
    obtain ⟨value, listed, found⟩ := List.mem_filterMap.mp member
    obtain ⟨p, accepted, rfl⟩ := Option.map_eq_some_iff.mp found
    obtain ⟨rfl, rfl⟩ := BlockKey.mk.inj key
    exact ⟨r, loaded, rfl, value, listed, p, accepted, rfl, concrete, rfl⟩

namespace Index

/-- One more entry merges its resource into the grants it is for and leaves all others alone. -/
theorem grantAt_grant (i : Index) (e : Entry) (key : BlockKey) (a : Access) :
    (i.grant e).grantAt key a =
      if e.key = key ∧ a ∈ e.permission.action.accesses then
        (i.grantAt key a).merge (.ofResource e.permission.resource)
      else i.grantAt key a := by
  unfold grantAt grant
  rw [find?_insert]
  by_cases here : e.key = key
  · subst here
    rw [if_pos rfl, Option.getD_some, Block.grant_withGrant]
    simp only [true_and]
  · rw [if_neg here, if_neg fun both => here both.1]

/-- Step: the grant keeps summarising the names read so far. -/
theorem summarises_grant {i : Index} {key : BlockKey} {a : Access} {named : String → Prop}
    (before : (i.grantAt key a).Summarises named) (e : Entry) :
    ((i.grant e).grantAt key a).Summarises fun name => named name ∨ e.Names key a name := by
  rw [grantAt_grant]
  split
  · rename_i concerned
    refine (Grant.summarises_merge before (Grant.summarises_ofResource _)).congr fun name => ?_
    exact or_congr_right ⟨fun same => ⟨concerned.1, concerned.2, same⟩, fun names => names.2.2⟩
  · rename_i unconcerned
    refine before.congr fun name => (or_iff_left ?_).symm
    exact fun names => unconcerned ⟨names.1, names.2.1⟩

/-- Run: so does the grant after any number of entries. -/
theorem summarises_foldl (entries : List Entry) {i : Index} {key : BlockKey} {a : Access}
    {named : String → Prop} (before : (i.grantAt key a).Summarises named) :
    ((entries.foldl grant i).grantAt key a).Summarises fun name =>
      named name ∨ ∃ e ∈ entries, e.Names key a name := by
  induction entries generalizing i named with
  | nil => exact before.congr fun name => by simp
  | cons e rest ih =>
    refine (ih (summarises_grant before e)).congr fun name => ?_
    simp only [or_assoc, List.mem_cons, exists_eq_or_imp]

/-- The compiled grants summarise what the sources grant. -/
theorem summarises_compile (sources : List RoleSource) (c : Context) (scope : String)
    (a : Access) :
    ((compile sources).grantAt ⟨c, scope⟩ a).Summarises (Granted sources c scope a) := by
  have start : (empty.grantAt ⟨c, scope⟩ a).Summarises fun _ => False := by
    rw [grantAt_empty]
    exact Grant.summarises_empty
  refine (summarises_foldl (Role.allEntries (Role.load sources)) start).congr fun name => ?_
  rw [false_or, granted_iff_entry]

theorem keys_grant (i : Index) (e : Entry) :
    (i.grant e).keys = if e.key ∈ i.keys then i.keys else i.keys ++ [e.key] :=
  keys_insert i e.key _

/-- Run: the keys that were there stay in front, and new ones follow in the order in which they are
first read. -/
theorem keys_foldl (entries : List Entry) (i : Index) :
    (entries.foldl grant i).keys =
      i.keys ++ ((entries.map Entry.key).removeAll i.keys).eraseDups := by
  induction entries generalizing i with
  | nil => simp
  | cons e rest ih =>
    rw [List.foldl_cons, ih, keys_grant, List.map_cons, List.cons_removeAll]
    by_cases known : e.key ∈ i.keys
    · simp [known]
    · have later : (rest.map Entry.key).removeAll (i.keys ++ [e.key]) =
          ((rest.map Entry.key).removeAll i.keys).filter fun k => !k == e.key := by
        rw [List.removeAll, List.removeAll, List.filter_filter]
        apply List.filter_congr
        intro k _
        rw [Bool.eq_iff_iff]
        simp [and_comm]
      simp [known, later, List.eraseDups_cons]

theorem keys_ofEntries (entries : List Entry) :
    (ofEntries entries).keys = (entries.map Entry.key).eraseDups := by
  have run := keys_foldl entries empty
  rwa [keys_empty, List.nil_append, List.removeAll_nil] at run

theorem keys_compile (sources : List RoleSource) :
    (compile sources).keys = ((Role.allEntries (Role.load sources)).map Entry.key).eraseDups :=
  keys_ofEntries (Role.allEntries (Role.load sources))

/-- There is a block exactly where something is granted. -/
theorem mem_keys_compile_iff (sources : List RoleSource) (c : Context) (scope : String) :
    (⟨c, scope⟩ : BlockKey) ∈ (compile sources).keys ↔
      ∃ a resource, Granted sources c scope a resource := by
  simp only [keys_compile, List.mem_eraseDups, List.mem_map, granted_iff_entry]
  constructor
  · rintro ⟨e, member, key⟩
    obtain ⟨a, concrete⟩ := List.exists_mem_of_ne_nil _ e.permission.action.accesses_ne_nil
    exact ⟨a, e.permission.resource, e, member, key, concrete, rfl⟩
  · rintro ⟨a, resource, e, member, names⟩
    exact ⟨e, member, names.1⟩

theorem mem_keys_compile_iff_mentioned (sources : List RoleSource) (c : Context) (scope : String) :
    (⟨c, scope⟩ : BlockKey) ∈ (compile sources).keys ↔ Mentioned sources c scope := by
  rw [mem_keys_compile_iff, mentioned_iff]
  exact exists_congr fun a => (covered_iff sources c scope a).symm

/-- The grant for a concrete action holds something exactly where an entry covers the action. -/
theorem met_action_compile_iff (sources : List RoleSource) (c : Context) (scope : String)
    (a : Access) (resource : String) :
    Demand.action.met ((compile sources).grantAt ⟨c, scope⟩ a) resource = true ↔
      Covered sources c scope a := by
  rw [Demand.met, Bool.not_eq_true', ← Bool.not_eq_true, covered_iff,
    Grant.isEmpty_iff_of_summarises (summarises_compile sources c scope a)]
  exact not_forall_not

/-- The grant for a concrete action allows what the granted names meet. -/
theorem met_compile_iff (sources : List RoleSource) (c : Context) (scope : String) (a : Access)
    (resource : String) :
    Demand.resource.met ((compile sources).grantAt ⟨c, scope⟩ a) resource = true ↔
      Grant.MetBy (Granted sources c scope a) resource :=
  Grant.allows_iff_of_summarises (summarises_compile sources c scope a) resource

/-- The full checks, told by what the sources grant. In one context the answer is true exactly when
every concrete action of the query is met there by the granted names; in either context, when one
and the same context meets them all. -/
theorem query_compile_iff_granted (sources : List RoleSource) (value : Json) (p : Permission)
    (read : Permission.read value = .ok p) :
    (∀ c, ∃ answer, (compile sources).query ⟨.resource, .within c⟩ value = .ok answer ∧
      (answer = true ↔
        ∀ a ∈ p.action.accesses, Grant.MetBy (Granted sources c p.scope a) p.resource)) ∧
    ∃ answer, (compile sources).query ⟨.resource, .anywhere⟩ value = .ok answer ∧
      (answer = true ↔
        ∃ c, ∀ a ∈ p.action.accesses, Grant.MetBy (Granted sources c p.scope a) p.resource) := by
  refine query_iff_of_meets _ read fun c => ?_
  rw [meets_iff]
  exact forall₂_congr fun a _ => met_compile_iff sources c p.scope a p.resource

end Index

/-- Reading is granted locally and writing globally, so that no context holds both. -/
def dividedRoles : List RoleSource :=
  [.loaded ⟨.str "reader", .str "reader", .local, [.str "Report.Read.monthly"], .null⟩,
    .loaded ⟨.str "writer", .str "writer", .global, [.str "Report.Write.monthly"], .null⟩]

theorem query_dividedRoles_iff_granted :
    Permission.read (.str "Report.ReadWrite.monthly") = .ok ⟨"Report", .readWrite, "monthly"⟩ ∧
    ∃ answer, (Index.compile dividedRoles).query ⟨.resource, .anywhere⟩
        (.str "Report.ReadWrite.monthly") = .ok answer ∧
      (answer = true ↔ ∃ c, ∀ a ∈ Action.readWrite.accesses,
        Grant.MetBy (Granted dividedRoles c "Report" a) "monthly") :=
  ⟨rfl, (Index.query_compile_iff_granted dividedRoles (.str "Report.ReadWrite.monthly")
    ⟨"Report", .readWrite, "monthly"⟩ rfl).2⟩

/-- Neither context holds both actions, though each action is held somewhere. -/
example : (Index.compile dividedRoles).query ⟨.resource, .anywhere⟩
    (.str "Report.ReadWrite.monthly") = .ok false := rfl

end AccessControl
