import AccessControl.Proofs.Compile.Meaning
import AccessControl.Proofs.Index.Occurrence
import AccessControl.Proofs.Permission.Spelling

/-!
# Compiling joined and reworded sources

Compiling forgets how its sources were put together. What a join of two lists grants is what either
grants (`granted_append`), and a grant is determined by the names that it summarises, so the index
of the join is the key-wise union of the two indexes (`keys_compile_append`,
`grantAt_compile_append`). For the same reason sources that grant the same give indexes that find
the same blocks (`find?_compile_congr`), and everything that is asked of an index depends on what it
finds alone.

`Reworded` spells out changes that keep what is granted: other orders, repetitions, other role
boundaries, and `ReadWrite` written as two entries (`Reworded.sameGrants`).
-/
namespace AccessControl

/-- Both lists grant the same resources for the same concrete actions, scopes and contexts. -/
def SameGrants (sources others : List RoleSource) : Prop :=
  ∀ c scope a resource, Granted sources c scope a resource ↔ Granted others c scope a resource

theorem granted_append (sources more : List RoleSource) (c : Context) (scope : String) (a : Access)
    (resource : String) :
    Granted (sources ++ more) c scope a resource ↔
      Granted sources c scope a resource ∨ Granted more c scope a resource := by
  unfold Granted Role.load
  simp only [List.filterMap_append, List.mem_append, or_and_right, exists_or]

theorem covered_append (sources more : List RoleSource) (c : Context) (scope : String)
    (a : Access) :
    Covered (sources ++ more) c scope a ↔ Covered sources c scope a ∨ Covered more c scope a := by
  simp only [covered_iff, granted_append, exists_or]

theorem mentioned_append (sources more : List RoleSource) (c : Context) (scope : String) :
    Mentioned (sources ++ more) c scope ↔ Mentioned sources c scope ∨ Mentioned more c scope := by
  simp only [mentioned_iff, covered_append, exists_or]

theorem granted_singleton {source : RoleSource} {r : Role} (loads : source.role? = some r)
    (c : Context) (scope : String) (a : Access) (resource : String) :
    Granted [source] c scope a resource ↔ r.context = c ∧ r.Grants scope a resource := by
  unfold Granted Role.load
  rw [List.filterMap_cons_some loads, List.filterMap_nil]
  simp only [List.mem_singleton, exists_eq_left]

/-- The sources of a list that grant something do so alone. -/
theorem granted_iff_exists (sources : List RoleSource) (c : Context) (scope : String) (a : Access)
    (resource : String) :
    Granted sources c scope a resource ↔
      ∃ source ∈ sources, Granted [source] c scope a resource := by
  induction sources with
  | nil => simp [Granted, Role.load]
  | cons source rest ih =>
    have split := granted_append [source] rest c scope a resource
    rw [List.singleton_append] at split
    rw [split, ih]
    simp only [List.mem_cons, exists_eq_or_imp]

/-- A list of role sources said in other words. -/
inductive Reworded : List RoleSource → List RoleSource → Prop
  | symm {sources others : List RoleSource} (h : Reworded sources others) :
      Reworded others sources
  | trans {sources others more : List RoleSource} (h : Reworded sources others)
      (h' : Reworded others more) : Reworded sources more
  /-- Parts are reworded each on its own. -/
  | append {sources others more rest : List RoleSource} (h : Reworded sources others)
      (h' : Reworded more rest) : Reworded (sources ++ more) (others ++ rest)
  /-- Roles come in another order, or some of them more than once. -/
  | roles {sources others : List RoleSource} (same : ∀ source, source ∈ sources ↔ source ∈ others) :
      Reworded sources others
  /-- A value stands for the role that it loads as. -/
  | loaded {value : Json} {r : Role} (loads : Role.ofJson value = .ok r) :
      Reworded [.data value] [.loaded r]
  /-- The entries of a role come in another order, or some of them more than once. -/
  | entries {r s : Role} (context : r.context = s.context)
      (same : ∀ value, value ∈ r.permissions ↔ value ∈ s.permissions) :
      Reworded [.loaded r] [.loaded s]
  /-- A role is divided into two of the same context. -/
  | divided {r s t : Role} (first : r.context = s.context) (second : r.context = t.context)
      (parts : r.permissions = s.permissions ++ t.permissions) :
      Reworded [.loaded r] [.loaded s, .loaded t]
  /-- One entry for both actions is written as two. -/
  | bothActions {r s : Role} {before after : List Json} {scope resource : String}
      (free : Permission.DotFree scope) (context : r.context = s.context)
      (joint : r.permissions =
        before ++ .str (Permission.spelling ⟨scope, .readWrite, resource⟩) :: after)
      (apart : s.permissions =
        before ++ .str (Permission.spelling ⟨scope, .read, resource⟩) ::
          .str (Permission.spelling ⟨scope, .write, resource⟩) :: after) :
      Reworded [.loaded r] [.loaded s]

/-- An entry for both actions reads as the two entries for one each do together. -/
theorem spelling_readWrite_grants_iff {scope : String} (free : Permission.DotFree scope)
    (resource asked : String) (a : Access) (name : String) :
    (∃ p, Permission.read? (.str (Permission.spelling ⟨scope, .readWrite, resource⟩)) = some p ∧
      p.Grants asked a name) ↔
    (∃ p, Permission.read? (.str (Permission.spelling ⟨scope, .read, resource⟩)) = some p ∧
      p.Grants asked a name) ∨
    ∃ p, Permission.read? (.str (Permission.spelling ⟨scope, .write, resource⟩)) = some p ∧
      p.Grants asked a name := by
  by_cases unnamed : scope = ""
  · have refused : ∀ action,
        Permission.read? (.str (Permission.spelling ⟨scope, action, resource⟩)) = none :=
      fun action => Permission.read?_spelling_of_scope_empty unnamed
    simp [refused]
  · have accepted : ∀ action,
        Permission.read? (.str (Permission.spelling ⟨scope, action, resource⟩)) =
          some ⟨scope, action, Permission.resourceSegment resource⟩ :=
      fun action => Permission.read?_spelling unnamed free
    cases a <;> simp [accepted, Permission.Grants, Action.accesses]

/-- Rewording keeps what is granted: one case for each way of rewording. -/
theorem Reworded.sameGrants {sources others : List RoleSource} (h : Reworded sources others) :
    SameGrants sources others := by
  intro c scope a resource
  induction h with
  | symm _ ih => exact ih.symm
  | trans _ _ first second => exact first.trans second
  | append _ _ first second => rw [granted_append, granted_append, first, second]
  | roles same =>
    rw [granted_iff_exists, granted_iff_exists]
    exact exists_congr fun source => and_congr_left fun _ => same source
  | loaded loads =>
    rw [granted_singleton (RoleSource.role?_data loads), granted_singleton rfl]
  | entries context same =>
    rw [granted_singleton rfl, granted_singleton rfl, context]
    exact and_congr_right fun _ => exists_congr fun value => and_congr_left fun _ => same value
  | divided first second parts =>
    rw [granted_singleton rfl, ← List.singleton_append, granted_append, granted_singleton rfl,
      granted_singleton rfl, ← first, ← second, ← and_or_left]
    refine and_congr_right fun _ => ?_
    unfold Role.Grants
    simp only [parts, List.mem_append, or_and_right, exists_or]
  | bothActions free context joint apart =>
    rw [granted_singleton rfl, granted_singleton rfl, context]
    refine and_congr_right fun _ => ?_
    unfold Role.Grants
    simp only [joint, apart, List.mem_append, List.mem_cons, or_and_right, exists_or,
      exists_eq_left, spelling_readWrite_grants_iff free, or_assoc]

namespace Index

/-- What a grant holds after a join is the merge of what it holds for the parts. -/
theorem grantAt_compile_append (sources more : List RoleSource) (key : BlockKey) (a : Access) :
    (compile (sources ++ more)).grantAt key a =
      ((compile sources).grantAt key a).merge ((compile more).grantAt key a) := by
  have parts := Grant.summarises_merge (summarises_compile sources key.context key.scope a)
    (summarises_compile more key.context key.scope a)
  refine Grant.summarises_unique (summarises_compile _ key.context key.scope a) ?_
  exact parts.congr fun name => (granted_append sources more _ _ _ name).symm

/-- The keys of a join are those of the first part, and then the new ones of the second. -/
theorem keys_compile_append (sources more : List RoleSource) :
    (compile (sources ++ more)).keys =
      (compile sources).keys ++ (compile more).keys.filter (· ∉ (compile sources).keys) := by
  have joined : Role.allEntries (Role.load (sources ++ more)) =
      Role.allEntries (Role.load sources) ++ Role.allEntries (Role.load more) := by
    rw [Role.load, List.filterMap_append, Role.allEntries, List.flatMap_append]
    rfl
  have run := keys_foldl (Role.allEntries (Role.load more)) (compile sources)
  rw [List.removeAll, eraseDups_filter, ← keys_compile] at run
  have append : compile (sources ++ more) =
      (Role.allEntries (Role.load more)).foldl grant (compile sources) := by
    rw [compile, ofRoles, ofEntries, joined, List.foldl_append]
    rfl
  rw [append, run]
  simp

/-- Sources that grant the same have indexes that find the same. -/
theorem find?_compile_congr {sources others : List RoleSource} (same : SameGrants sources others)
    (key : BlockKey) : (compile sources).find? key = (compile others).find? key := by
  refine find?_eq_of_grantAt ?_ fun a => ?_
  · refine (mem_keys_compile_iff sources key.context key.scope).trans ?_
    refine Iff.trans ?_ (mem_keys_compile_iff others key.context key.scope).symm
    exact exists_congr fun a => exists_congr fun resource => same _ _ a resource
  · refine Grant.summarises_unique (summarises_compile sources key.context key.scope a) ?_
    exact (summarises_compile others key.context key.scope a).congr fun name =>
      (same _ _ _ name).symm

theorem query_congr {i j : Index} (same : ∀ key, i.find? key = j.find? key) (check : Check)
    (value : Json) : i.query check value = j.query check value := by
  have met : ∀ c p, i.meets check.demand c p = j.meets check.demand c p := fun c p => by
    rw [meets, meets, same]
  have asked : i.ask check = j.ask check := funext fun p => by
    rw [ask, ask]
    simp only [met]
  rw [query, query, asked]

theorem queryContext_congr {i j : Index} (same : ∀ key, i.find? key = j.find? key)
    (value : Json) : i.queryContext value = j.queryContext value := by
  have contexts : i.contextsOf = j.contextsOf := funext fun scope => by
    rw [contextsOf, contextsOf, same, same]
  rw [queryContext, queryContext, contexts]

/-- Compiling is a homomorphism: the index of a join is the key-wise merge of the indexes of its
parts. What is granted decides all else, namely the blocks, the flattened view up to order and the
answer to every question, and rewording keeps what is granted. -/
theorem compile_homomorphism :
    (∀ sources more : List RoleSource,
      (compile (sources ++ more)).keys =
        (compile sources).keys ++ (compile more).keys.filter (· ∉ (compile sources).keys) ∧
      ∀ key a, (compile (sources ++ more)).grantAt key a =
        ((compile sources).grantAt key a).merge ((compile more).grantAt key a)) ∧
    (∀ sources others : List RoleSource, SameGrants sources others →
      (∀ key, (compile sources).find? key = (compile others).find? key) ∧
      (compile sources).flatten.Perm (compile others).flatten ∧
      (∀ check value, (compile sources).query check value = (compile others).query check value) ∧
      ∀ value, (compile sources).queryContext value = (compile others).queryContext value) ∧
    ∀ sources others : List RoleSource, Reworded sources others → SameGrants sources others := by
  refine ⟨fun sources more => ?_, fun sources others same => ?_, fun _ _ h => h.sameGrants⟩
  · exact ⟨keys_compile_append sources more, grantAt_compile_append sources more⟩
  · have found := find?_compile_congr same
    refine ⟨found, ?_, query_congr found, queryContext_congr found⟩
    exact (blocks_perm_of_find? found).flatMap_right _

end Index

def localRole (entries : List String) : RoleSource :=
  .loaded ⟨.int 7, .str "editor", .local, entries.map .str, .null⟩

theorem reworded_localRole :
    Reworded [localRole ["Doc.ReadWrite.a", "Doc.Read.b"]]
      [localRole ["Doc.Write.a", "Doc.Read.b"], localRole ["Doc.Read.a"]] := by
  have written : Reworded [localRole ["Doc.ReadWrite.a", "Doc.Read.b"]]
      [localRole ["Doc.Read.a", "Doc.Write.a", "Doc.Read.b"]] :=
    @Reworded.bothActions _ _ [] [.str "Doc.Read.b"] "Doc" "a" (by decide) rfl rfl rfl
  have divided : Reworded [localRole ["Doc.Read.a", "Doc.Write.a", "Doc.Read.b"]]
      [localRole ["Doc.Read.a"], localRole ["Doc.Write.a", "Doc.Read.b"]] :=
    .divided rfl rfl rfl
  have swapped : Reworded [localRole ["Doc.Read.a"], localRole ["Doc.Write.a", "Doc.Read.b"]]
      [localRole ["Doc.Write.a", "Doc.Read.b"], localRole ["Doc.Read.a"]] :=
    .roles fun _ => (List.Perm.swap _ _ []).mem_iff
  exact (written.trans divided).trans swapped

theorem compile_reworded_localRole :
    SameGrants [localRole ["Doc.ReadWrite.a", "Doc.Read.b"]]
      [localRole ["Doc.Write.a", "Doc.Read.b"], localRole ["Doc.Read.a"]] ∧
    (Index.compile [localRole ["Doc.ReadWrite.a", "Doc.Read.b"]]).flatten.Perm
      (Index.compile [localRole ["Doc.Write.a", "Doc.Read.b"], localRole ["Doc.Read.a"]]).flatten :=
  have same := Index.compile_homomorphism.2.2 _ _ reworded_localRole
  ⟨same, (Index.compile_homomorphism.2.1 _ _ same).2.1⟩

end AccessControl
