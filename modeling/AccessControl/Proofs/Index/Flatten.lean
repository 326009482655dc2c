import AccessControl.Proofs.Grant.Coverage
import AccessControl.Proofs.Index.Lookup

/-!
# The flattened view against the checks

The flattened view and the full checks are computed apart: the view pairs each grant with the
actions that it serves, a second action being served when its own grant includes the entry's, while
a check looks up one grant and asks what it allows. They tell the same story, for every index.

* soundness: the grant of every action that an entry serves includes the entry's grant
  (`includes_of_mem_flatten`), and a grant that includes another allows all that the other allows
  (`Grant.allows_of_includes`);
* completeness: a grant that is not empty stands in some entry that serves its action
  (`exists_mem_flatten`);
* so an index reports a resource exactly where its grant allows it (`reports_iff`), which is what
  the checks answer.
-/
namespace AccessControl

def FlatPermission.serves (e : FlatPermission) : Access → Bool
  | .read => e.read
  | .write => e.write

namespace Block

/-- What an entry of a block can be: the one of a block whose grants agree, or the one of an action
whose grant differs from the other's. -/
theorem mem_flatten_cases {key : BlockKey} {b : Block} {e : FlatPermission}
    (member : e ∈ b.flatten key) :
    (b.read = b.write ∧ e = ⟨key.context, key.scope, true, true, b.read⟩) ∨
      e = ⟨key.context, key.scope, true, b.write.includes b.read, b.read⟩ ∨
      e = ⟨key.context, key.scope, b.read.includes b.write, true, b.write⟩ := by
  unfold flatten at member
  split at member
  · rename_i same
    split at member
    · cases member
    · exact Or.inl ⟨same, List.mem_singleton.mp member⟩
  · right
    rcases List.mem_append.mp member with first | second
    · split at first
      · cases first
      · exact Or.inl (List.mem_singleton.mp first)
    · split at second
      · cases second
      · exact Or.inr (List.mem_singleton.mp second)

theorem key_of_mem_flatten {key : BlockKey} {b : Block} {e : FlatPermission}
    (member : e ∈ b.flatten key) : (⟨e.context, e.scope⟩ : BlockKey) = key := by
  rcases mem_flatten_cases member with ⟨-, rfl⟩ | rfl | rfl <;> rfl

/-- An entry carries the grant of one of the actions. -/
theorem exists_grant_of_mem_flatten {key : BlockKey} {b : Block} {e : FlatPermission}
    (member : e ∈ b.flatten key) : ∃ own, e.resources = b.grant own := by
  rcases mem_flatten_cases member with ⟨-, rfl⟩ | rfl | rfl
  · exact ⟨.read, rfl⟩
  · exact ⟨.read, rfl⟩
  · exact ⟨.write, rfl⟩

/-- An entry serves an action exactly when the action's grant includes the entry's. -/
theorem serves_eq_includes {key : BlockKey} {b : Block} {e : FlatPermission}
    (member : e ∈ b.flatten key) (a : Access) :
    e.serves a = (b.grant a).includes e.resources := by
  rcases mem_flatten_cases member with ⟨same, rfl⟩ | rfl | rfl
  · cases a with
    | read => exact (Grant.includes_self b.read).symm
    | write =>
      change true = b.write.includes b.read
      rw [same]
      exact (Grant.includes_self b.write).symm
  · cases a with
    | read => exact (Grant.includes_self b.read).symm
    | write => rfl
  · cases a with
    | read => rfl
    | write => exact (Grant.includes_self b.write).symm

/-- Soundness: the grant of an action that an entry serves includes the entry's grant. -/
theorem includes_of_mem_flatten {key : BlockKey} {b : Block} {e : FlatPermission} {a : Access}
    (member : e ∈ b.flatten key) (served : e.serves a = true) :
    (b.grant a).includes e.resources = true := by
  rwa [serves_eq_includes member] at served

/-- Completeness: a grant that is not empty stands in an entry that serves its action. -/
theorem exists_mem_flatten (key : BlockKey) (b : Block) (a : Access)
    (something : ¬ (b.grant a).isEmpty = true) :
    ∃ e ∈ b.flatten key, e.serves a = true ∧ e.resources = b.grant a := by
  unfold flatten
  by_cases same : b.read = b.write
  · have kept : ¬ b.read.isEmpty = true := by
      cases a with
      | read => exact something
      | write => exact same ▸ something
    rw [if_pos same, if_neg kept]
    refine ⟨_, List.mem_singleton.mpr rfl, ?_⟩
    cases a with
    | read => exact ⟨rfl, rfl⟩
    | write => exact ⟨rfl, same⟩
  · rw [if_neg same]
    cases a with
    | read =>
      have kept : ¬ b.read.isEmpty = true := something
      rw [if_neg kept]
      exact ⟨_, List.mem_append_left _ (List.mem_singleton.mpr rfl), rfl, rfl⟩
    | write =>
      have kept : ¬ b.write.isEmpty = true := something
      rw [if_neg kept]
      exact ⟨_, List.mem_append_right _ (List.mem_singleton.mpr rfl), rfl, rfl⟩

end Block

namespace Index

/-- The flattened view has an entry of the context and the scope that serves the concrete action and
whose grant allows the resource. -/
def Reports (i : Index) (c : Context) (scope : String) (a : Access) (resource : String) : Prop :=
  ∃ e ∈ i.flatten, e.context = c ∧ e.scope = scope ∧ e.serves a = true ∧
    e.resources.allows resource = true

theorem mem_flatten_iff (i : Index) (e : FlatPermission) :
    e ∈ i.flatten ↔ ∃ key block, (key, block) ∈ i.blocks ∧ e ∈ block.flatten key := by
  rw [flatten, List.mem_flatMap, Prod.exists]

/-- The view reports a resource exactly where the grant allows it. -/
theorem reports_iff (i : Index) (c : Context) (scope : String) (a : Access) (resource : String) :
    i.Reports c scope a resource ↔ (i.grantAt ⟨c, scope⟩ a).allows resource = true := by
  constructor
  · rintro ⟨e, member, rfl, rfl, served, allowed⟩
    obtain ⟨key, block, listed, entry⟩ := (mem_flatten_iff i e).mp member
    have found : i.find? ⟨e.context, e.scope⟩ = some block := by
      rw [Block.key_of_mem_flatten entry]
      exact (find?_eq_some_iff i key block).mpr listed
    rw [grantAt_of_find? found]
    exact Grant.allows_of_includes (Block.includes_of_mem_flatten entry served) allowed
  · intro allowed
    cases found : i.find? ⟨c, scope⟩ with
    | none =>
      rw [grantAt, found, Option.getD_none, Block.grant_empty,
        Grant.not_allows_of_isEmpty rfl] at allowed
      cases allowed
    | some block =>
      rw [grantAt_of_find? found] at allowed
      have something : ¬ (block.grant a).isEmpty = true := fun nothing => by
        rw [Grant.not_allows_of_isEmpty nothing] at allowed
        cases allowed
      obtain ⟨e, entry, served, same⟩ := Block.exists_mem_flatten ⟨c, scope⟩ block a something
      obtain ⟨sameContext, sameScope⟩ := BlockKey.mk.inj (Block.key_of_mem_flatten entry)
      have listed := (find?_eq_some_iff i ⟨c, scope⟩ block).mp found
      exact ⟨e, (mem_flatten_iff i e).mpr ⟨_, block, listed, entry⟩, sameContext,
        sameScope, served, same ▸ allowed⟩

/-- On every index, the full check of a spelled permission in one context is answered, and is true
exactly when the flattened view reports the resource for the concrete action; for both actions
together, when it reports the resource for each of them. -/
theorem query_spelling_iff_reports (i : Index) (c : Context) (scope resource : String)
    (named : scope ≠ "") (free : Permission.DotFree scope) (plain : Permission.DotFree resource) :
    (∀ a : Access, ∃ answer,
      i.query ⟨.resource, .within c⟩ (.str (Permission.spelling ⟨scope, a.action, resource⟩)) =
        .ok answer ∧ (answer = true ↔ i.Reports c scope a resource)) ∧
    ∃ answer,
      i.query ⟨.resource, .within c⟩ (.str (Permission.spelling ⟨scope, .readWrite, resource⟩)) =
        .ok answer ∧
      (answer = true ↔ i.Reports c scope .read resource ∧ i.Reports c scope .write resource) := by
  constructor
  · intro a
    refine ⟨_, query_spelling i .resource c named free plain, ?_⟩
    rw [meets_access_iff]
    exact (reports_iff i c scope a resource).symm
  · refine ⟨_, query_spelling i .resource c named free plain, ?_⟩
    rw [meets_iff]
    simp [Action.accesses, Demand.met, reports_iff]

end Index

/-- Reading reaches every resource and writing two named ones, so that the entry made for writing
serves reading too; a second block is empty. -/
def unevenIndex : Index :=
  .ofList [(⟨.local, "Doc"⟩, ⟨.all, .ofNames ["a", "All"]⟩), (⟨.global, "Doc"⟩, .empty)]

theorem query_unevenIndex_iff_reports :
    ("Doc" ≠ "" ∧ Permission.DotFree "Doc" ∧ Permission.DotFree "a") ∧
    ∃ answer, unevenIndex.query ⟨.resource, .within .local⟩
        (.str (Permission.spelling ⟨"Doc", .readWrite, "a"⟩)) = .ok answer ∧
      (answer = true ↔
        unevenIndex.Reports .local "Doc" .read "a" ∧ unevenIndex.Reports .local "Doc" .write "a") :=
  ⟨⟨by decide, by decide, by decide⟩,
    (Index.query_spelling_iff_reports unevenIndex .local "Doc" "a" (by decide) (by decide)
      (by decide)).2⟩

end AccessControl
