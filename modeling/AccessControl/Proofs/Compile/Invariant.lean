import AccessControl.Proofs.Compile.Union
import AccessControl.Proofs.Grant.Merge
import AccessControl.Proofs.Index.Introspection

/-!
# What every compiled index keeps to

Segments hold no separator, and the names of all resources and of the default one are never put into
a set, but that is so only because of how grants are made from entries: an index that is put together
by hand may break it. The invariant is `Index.WellFormed`, said of each block with its key
(`Block.WellFormed`) and, in it, of each grant (`Grant.IsPlain`).

* `Grant.isPlain_ofResource`, `Grant.isPlain_merge`, `Block.wellFormed_withGrant`: what one grant,
  and one more grant in a block, keep;
* `Index.wellFormed_grant`, `Index.wellFormed_foldl`, `Index.wellFormed_compile`: step, run, result;
* `Grant.IsPlain.eq_all_of_allows`: a plain grant meets the demand for all resources only by being
  the grant of all of them, which is what the wildcard query rests on.
-/
namespace AccessControl

namespace Permission

/-- A name that may stand in a set: an ordinary one that is a single segment. -/
structure IsOrdinary (name : String) : Prop where
  notAll : name ≠ allResources
  notDefault : name ≠ defaultResource
  dotFree : DotFree name

end Permission

namespace Grant

/-- Only sets have names, and these are ordinary ones. -/
structure IsPlain (g : Grant) : Prop where
  bare : g.kind ≠ .specific → g.resources = .empty
  ordinary : ∀ name ∈ g.resources, Permission.IsOrdinary name

theorem isPlain_of_bare {g : Grant} (bare : g.resources = .empty) : g.IsPlain := by
  refine ⟨fun _ => bare, fun name member => ?_⟩
  rw [bare] at member
  exact absurd member (ResourceSet.not_mem_empty name)

theorem isPlain_specific {resources : ResourceSet}
    (ordinary : ∀ name ∈ resources, Permission.IsOrdinary name) : (specific resources).IsPlain :=
  ⟨fun other => absurd rfl other, ordinary⟩

theorem isPlain_ofResource {resource : String} (free : Permission.DotFree resource) :
    (ofResource resource).IsPlain := by
  unfold ofResource
  split
  · exact isPlain_of_bare rfl
  · rename_i notAll
    split
    · exact isPlain_of_bare rfl
    · rename_i notDefault
      refine isPlain_specific fun name member => ?_
      obtain rfl : name = resource := by simpa using member
      exact ⟨notAll, notDefault, free⟩

theorem isPlain_merge {g h : Grant} (first : g.IsPlain) (second : h.IsPlain) :
    (g.merge h).IsPlain := by
  cases g with
  | all => exact isPlain_of_bare rfl
  | default => cases h <;> exact isPlain_of_bare rfl
  | specific r =>
    cases h with
    | all => exact isPlain_of_bare rfl
    | default => exact isPlain_of_bare rfl
    | specific s =>
      refine isPlain_specific fun name member => ?_
      rcases ResourceSet.mem_union.mp member with left | right
      · exact first.ordinary name left
      · exact second.ordinary name right

/-- The name of all resources is in no set, so that only one grant allows it. -/
theorem IsPlain.eq_all_of_allows {g : Grant} (plain : g.IsPlain)
    (allowed : g.allows allResources = true) : g = .all := by
  cases g with
  | all => rfl
  | default =>
    have same : allResources = defaultResource := of_decide_eq_true allowed
    exact absurd same allResources_ne_defaultResource
  | specific resources =>
    have member : allResources ∈ resources := ResourceSet.contains_iff.mp allowed
    exact absurd rfl (plain.ordinary allResources member).notAll

theorem isEmpty_ofResource (resource : String) : (ofResource resource).isEmpty = false := by
  rw [Bool.eq_false_iff]
  intro nothing
  exact (isEmpty_iff_of_summarises (summarises_ofResource resource)).mp nothing resource rfl

theorem isEmpty_merge_of_right {g h : Grant} (something : h.isEmpty = false) :
    (g.merge h).isEmpty = false := by
  rw [Bool.eq_false_iff] at something ⊢
  intro nothing
  exact something (isEmpty_merge_iff.mp nothing).2

end Grant

namespace Block

/-- What a block keeps to under its key: the scope is a segment, every grant is plain, and one of
them is not empty. -/
structure WellFormed (key : BlockKey) (b : Block) : Prop where
  named : key.scope ≠ ""
  dotFree : Permission.DotFree key.scope
  plain : ∀ a, (b.grant a).IsPlain
  substantial : ∃ a, (b.grant a).isEmpty = false

theorem isPlain_empty (a : Access) : (empty.grant a).IsPlain := by
  rw [grant_empty]
  exact Grant.isPlain_of_bare rfl

/-- One more grant keeps a block plain and makes it substantial. -/
theorem wellFormed_withGrant {key : BlockKey} {b : Block} (named : key.scope ≠ "")
    (free : Permission.DotFree key.scope) (plain : ∀ a, (b.grant a).IsPlain) (action : Action)
    {resource : String} (segment : Permission.DotFree resource) :
    (b.withGrant action (.ofResource resource)).WellFormed key := by
  refine ⟨named, free, fun a => ?_, ?_⟩
  · rw [grant_withGrant]
    split
    · exact Grant.isPlain_merge (plain a) (Grant.isPlain_ofResource segment)
    · exact plain a
  · obtain ⟨a, concrete⟩ := List.exists_mem_of_ne_nil _ action.accesses_ne_nil
    refine ⟨a, ?_⟩
    rw [grant_withGrant, if_pos concrete]
    exact Grant.isEmpty_merge_of_right (Grant.isEmpty_ofResource resource)

theorem WellFormed.isVoid_eq_false {key : BlockKey} {b : Block} (h : b.WellFormed key) :
    b.isVoid = false := by
  obtain ⟨a, something⟩ := h.substantial
  cases a with
  | read => simp [isVoid, show b.read.isEmpty = false from something]
  | write => simp [isVoid, show b.write.isEmpty = false from something]

end Block

/-- An entry as it is read from a role: its scope and its resource are segments. -/
def Entry.IsSegmented (e : Entry) : Prop :=
  e.permission.scope ≠ "" ∧ Permission.DotFree e.permission.scope ∧
    Permission.DotFree e.permission.resource

theorem Entry.isSegmented_of_mem {roles : List Role} {e : Entry}
    (member : e ∈ Role.allEntries roles) : e.IsSegmented := by
  obtain ⟨r, -, member⟩ := List.mem_flatMap.mp member
  obtain ⟨value, -, found⟩ := List.mem_filterMap.mp member
  obtain ⟨p, accepted, rfl⟩ := Option.map_eq_some_iff.mp found
  exact Permission.dotFree_of_read (Permission.read?_eq_some_iff.mp accepted)

namespace Index

/-- Every block keeps to what its key asks of it. -/
def WellFormed (i : Index) : Prop :=
  ∀ key block, i.find? key = some block → block.WellFormed key

theorem wellFormed_empty : empty.WellFormed := fun _ _ found => nomatch found

/-- Step: one more entry. -/
theorem wellFormed_grant {i : Index} (before : i.WellFormed) {e : Entry}
    (segmented : e.IsSegmented) : (i.grant e).WellFormed := by
  intro key block found
  rw [grant, find?_insert] at found
  split at found
  · rename_i here
    subst here
    cases found
    obtain ⟨named, free, segment⟩ := segmented
    -- a new key starts from the empty block, which is plain but not substantial
    have plain : ∀ a, (((i.find? e.key).getD .empty).grant a).IsPlain := by
      cases old : i.find? e.key with
      | none => exact Block.isPlain_empty
      | some b => exact (before e.key b old).plain
    exact Block.wellFormed_withGrant named free plain _ segment
  · exact before key block found

/-- Run: any number of entries. -/
theorem wellFormed_foldl {entries : List Entry} (segmented : ∀ e ∈ entries, e.IsSegmented)
    {i : Index} (before : i.WellFormed) : (entries.foldl grant i).WellFormed := by
  induction entries generalizing i with
  | nil => exact before
  | cons e rest ih =>
    obtain ⟨here, later⟩ := List.forall_mem_cons.mp segmented
    exact ih later (wellFormed_grant before here)

theorem wellFormed_compile (sources : List RoleSource) : (compile sources).WellFormed :=
  wellFormed_foldl (fun _ member => Entry.isSegmented_of_mem member) wellFormed_empty

theorem WellFormed.isPlain_grantAt {i : Index} (h : i.WellFormed) (key : BlockKey) (a : Access) :
    (i.grantAt key a).IsPlain := by
  unfold grantAt
  cases found : i.find? key with
  | none => exact Block.isPlain_empty a
  | some block => exact (h key block found).plain a

/-- On a well-formed index all resources of a scope are held where each of them is, and the
capability that needs none. -/
theorem meets_all_iff {i : Index} (h : i.WellFormed) (c : Context) (scope : String)
    (action : Action) :
    i.meets .resource c ⟨scope, action, allResources⟩ = true ↔
      (∀ resource, Permission.DotFree resource →
        i.meets .resource c ⟨scope, action, resource⟩ = true) ∧
      i.meets .resource c ⟨scope, action, defaultResource⟩ = true := by
  constructor
  · intro held
    have granted : ∀ a ∈ action.accesses, i.grantAt ⟨c, scope⟩ a = .all := fun a concrete =>
      (h.isPlain_grantAt _ a).eq_all_of_allows ((meets_iff i _ c _).mp held a concrete)
    have each : ∀ resource, i.meets .resource c ⟨scope, action, resource⟩ = true := by
      intro resource
      rw [meets_iff]
      intro a concrete
      rw [granted a concrete]
      rfl
    exact ⟨fun resource _ => each resource, each defaultResource⟩
  · rintro ⟨each, -⟩
    exact each allResources (by decide)

/-- A set of a well-formed index stands in a block, whose scope and names can be asked for. -/
theorem WellFormed.query_of_mem {i : Index} (h : i.WellFormed) {c : Context} {scope : String}
    {a : Access} {resources : ResourceSet} (held : i.grantAt ⟨c, scope⟩ a = .specific resources)
    {resource : String} (member : resource ∈ resources) :
    Permission.read (.str (Permission.spelling ⟨scope, a.action, resource⟩)) =
        .ok ⟨scope, a.action, resource⟩ ∧
      i.query ⟨.resource, .within c⟩
        (.str (Permission.spelling ⟨scope, a.action, resource⟩)) = .ok true := by
  have allowed : (i.grantAt ⟨c, scope⟩ a).allows resource = true := by
    rw [held]
    exact ResourceSet.contains_iff.mpr member
  have plain := h.isPlain_grantAt ⟨c, scope⟩ a
  rw [held] at plain
  have free : Permission.DotFree resource := (plain.ordinary resource member).dotFree
  cases found : i.find? ⟨c, scope⟩ with
  | none =>
    rw [grantAt, found, Option.getD_none, Block.grant_empty, Grant.not_allows_of_isEmpty rfl] at allowed
    cases allowed
  | some block =>
    obtain ⟨named, dotFree, -, -⟩ := h ⟨c, scope⟩ block found
    refine ⟨Permission.read_spelling named dotFree free, ?_⟩
    rw [query_spelling i .resource c named dotFree free]
    exact congrArg Except.ok ((meets_access_iff i .resource c scope a resource).mpr allowed)

theorem WellFormed.exists_mem_flatten {i : Index} (h : i.WellFormed) {key : BlockKey}
    {block : Block} (listed : (key, block) ∈ i.blocks) : ∃ e ∈ i.flatten, e.key = key := by
  have shape := Block.shape_flatten key block
  have something := (h key block ((find?_eq_some_iff i key block).mpr listed)).isVoid_eq_false
  obtain ⟨e, entry⟩ := List.exists_mem_of_ne_nil _ (shape.ne_nil something)
  exact ⟨e, (mem_flatten_iff i e).mpr ⟨key, block, listed, entry⟩, shape.key_eq e entry⟩

/-- Every compiled index is well-formed. Hence in one context the query for all resources of a scope
is answered with yes exactly when the query for each resource is and so is the one that names none;
every block is shown in the flattened view; and each name in a set can be asked for by its spelling,
with yes as the answer. -/
theorem compile_wildcard_iff_each (sources : List RoleSource) :
    (∀ key block, (key, block) ∈ (compile sources).blocks → block.WellFormed key) ∧
    (∀ c scope action, scope ≠ "" → Permission.DotFree scope →
      ((compile sources).query ⟨.resource, .within c⟩
          (.str (Permission.spelling ⟨scope, action, allResources⟩)) = .ok true ↔
        (∀ resource, Permission.DotFree resource →
          (compile sources).query ⟨.resource, .within c⟩
            (.str (Permission.spelling ⟨scope, action, resource⟩)) = .ok true) ∧
        (compile sources).query ⟨.resource, .within c⟩
          (.str (Permission.text ⟨scope, action, defaultResource⟩)) = .ok true)) ∧
    (∀ key block, (key, block) ∈ (compile sources).blocks →
      ∃ e ∈ (compile sources).flatten, e.key = key) ∧
    ∀ c scope a resources, (compile sources).grantAt ⟨c, scope⟩ a = .specific resources →
      ∀ resource ∈ resources,
        Permission.read (.str (Permission.spelling ⟨scope, a.action, resource⟩)) =
            .ok ⟨scope, a.action, resource⟩ ∧
          (compile sources).query ⟨.resource, .within c⟩
            (.str (Permission.spelling ⟨scope, a.action, resource⟩)) = .ok true := by
  have kept := wellFormed_compile sources
  refine ⟨fun key block listed => kept key block ((find?_eq_some_iff _ key block).mpr listed), ?_,
    fun _ _ listed => kept.exists_mem_flatten listed,
    fun _ _ _ _ held _ member => kept.query_of_mem held member⟩
  intro c scope action named free
  have spelled : ∀ resource, Permission.DotFree resource →
      ((compile sources).query ⟨.resource, .within c⟩
          (.str (Permission.spelling ⟨scope, action, resource⟩)) = .ok true ↔
        (compile sources).meets .resource c ⟨scope, action, resource⟩ = true) := by
    intro resource plain
    rw [query_spelling _ _ c named free plain, Except.ok.injEq]
  have resourceless : Permission.read
      (.str (Permission.text ⟨scope, action, defaultResource⟩)) = .ok ⟨scope, action, defaultResource⟩ :=
    Permission.read_text named free (show Permission.DotFree defaultResource by decide)
  have unnamed : ((compile sources).query ⟨.resource, .within c⟩
        (.str (Permission.text ⟨scope, action, defaultResource⟩)) = .ok true ↔
      (compile sources).meets .resource c ⟨scope, action, defaultResource⟩ = true) := by
    rw [query_of_read _ _ resourceless, Except.ok.injEq, ask_within]
  rw [spelled allResources (by decide), unnamed, meets_all_iff kept]
  exact and_congr_left' (forall₂_congr fun resource plain => (spelled resource plain).symm)

end Index

/-- Reading is held for whatever is asked, since all of it is; writing for the one name in the set. -/
theorem compile_localRole_wildcard :
    (Index.compile [localRole ["Doc.Read.b", "Doc.Write.a", "Doc.Read.All"]]).query
      ⟨.resource, .within .local⟩ (.str (Permission.spelling ⟨"Doc", .read, "All"⟩)) = .ok true ∧
    (∀ resource, Permission.DotFree resource →
      (Index.compile [localRole ["Doc.Read.b", "Doc.Write.a", "Doc.Read.All"]]).query
        ⟨.resource, .within .local⟩ (.str (Permission.spelling ⟨"Doc", .read, resource⟩)) =
          .ok true) ∧
    (Index.compile [localRole ["Doc.Read.b", "Doc.Write.a", "Doc.Read.All"]]).grantAt
      ⟨.local, "Doc"⟩ .write = .specific (.ofList ["a"]) ∧
    (Index.compile [localRole ["Doc.Read.b", "Doc.Write.a", "Doc.Read.All"]]).query
      ⟨.resource, .within .local⟩ (.str (Permission.spelling ⟨"Doc", .write, "a"⟩)) = .ok true := by
  have wellFormed :=
    Index.compile_wildcard_iff_each [localRole ["Doc.Read.b", "Doc.Write.a", "Doc.Read.All"]]
  have wildcard : (Index.compile [localRole ["Doc.Read.b", "Doc.Write.a", "Doc.Read.All"]]).query
      ⟨.resource, .within .local⟩ (.str (Permission.spelling ⟨"Doc", .read, "All"⟩)) = .ok true := rfl
  have each := (wellFormed.2.1 .local "Doc" .read (by decide) (by decide)).mp wildcard
  have member : "a" ∈ ResourceSet.ofList ["a"] := ResourceSet.mem_ofList.mpr (by decide)
  exact ⟨wildcard, each.1, rfl, (wellFormed.2.2.2 .local "Doc" .write _ rfl "a" member).2⟩

/-- In an index put together by hand a set may hold the name of all resources. The query for all of
them is then answered with yes, and the query for another one with no. -/
example : unevenIndex.query ⟨.resource, .within .local⟩ (.str "Doc.Write.All") = .ok true ∧
    unevenIndex.query ⟨.resource, .within .local⟩ (.str "Doc.Write.b") = .ok false := by decide

end AccessControl
