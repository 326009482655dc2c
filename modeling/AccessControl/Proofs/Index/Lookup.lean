import AccessControl.Proofs.Permission.Spelling
import AccessControl.Query

/-!
# Indexes as maps

What an index holds is told by its keys in order and by the grant at each key and concrete action,
a key without a block counting as a block in which nothing is granted.

* `find?_insert` and `keys_insert`: writing a block changes its own key only, and a known key keeps
  its place.
* `find?_eq_some_iff`: look-up finds exactly the blocks that are listed.
* `meets_iff`, `query_iff_of_meets`: the answer to a question depends on the grants alone, and
  `ask_mono`: it stays yes where the grants meet no less.
-/
namespace AccessControl

namespace Block

@[simp] theorem grant_empty (a : Access) : empty.grant a = .empty := by
  cases a <;> rfl

/-- Blocks with the same grants are equal. -/
theorem ext_grant {b c : Block} (same : ∀ a, b.grant a = c.grant a) : b = c := by
  cases b
  cases c
  exact congr (congrArg Block.mk (same .read)) (same .write)

/-- An action adds to the grants of its own concrete actions and leaves the others alone. -/
theorem grant_withGrant (b : Block) (action : Action) (g : Grant) (a : Access) :
    (b.withGrant action g).grant a =
      if a ∈ action.accesses then (b.grant a).merge g else b.grant a := by
  cases action <;> cases a <;> rfl

end Block

theorem Reach.mem_contexts_anywhere (c : Context) : c ∈ Reach.anywhere.contexts := by
  cases c <;> decide

theorem Action.accesses_ne_nil (action : Action) : action.accesses ≠ [] := by
  cases action <;> exact List.cons_ne_nil _ _

namespace Index

private theorem lookup_cons_ite (key other : BlockKey) (block : Block)
    (rest : List (BlockKey × Block)) :
    ((key, block) :: rest).lookup other = if key = other then some block else rest.lookup other := by
  by_cases same : key = other
  · subst same
    rw [List.lookup_cons_self, if_pos rfl]
  · have apart : (other == key) = false := beq_eq_false_iff_ne.mpr (Ne.symm same)
    rw [List.lookup_cons, apart, if_neg same]

theorem lookup_assign (key other : BlockKey) (block : Block) (blocks : List (BlockKey × Block)) :
    (assign key block blocks).lookup other =
      if key = other then some block else blocks.lookup other := by
  induction blocks with
  | nil => exact lookup_cons_ite key other block []
  | cons entry rest ih =>
    obtain ⟨k, b⟩ := entry
    rw [assign]
    by_cases same : k = key
    · subst same
      rw [if_pos rfl, lookup_cons_ite, lookup_cons_ite]
      by_cases found : k = other
      · rw [if_pos found, if_pos found]
      · rw [if_neg found, if_neg found, if_neg found]
    · rw [if_neg same, lookup_cons_ite, lookup_cons_ite, ih]
      by_cases found : key = other
      · rw [if_pos found, if_pos found, if_neg fun equal => same (equal.trans found.symm)]
      · rw [if_neg found, if_neg found]

@[simp] theorem find?_insert (i : Index) (key other : BlockKey) (block : Block) :
    (i.insert key block).find? other = if key = other then some block else i.find? other :=
  lookup_assign key other block i.blocks

@[simp] theorem keys_empty : empty.keys = [] := rfl

theorem keys_insert (i : Index) (key : BlockKey) (block : Block) :
    (i.insert key block).keys = if key ∈ i.keys then i.keys else i.keys ++ [key] :=
  keys_assign key block i.blocks

theorem find?_isSome_iff (i : Index) (key : BlockKey) :
    (i.find? key).isSome = true ↔ key ∈ i.keys := by
  rw [find?, keys, List.lookup_isSome_iff, List.mem_map]
  simp only [beq_iff_eq, eq_comm (a := key)]

theorem find?_eq_none_iff (i : Index) (key : BlockKey) : i.find? key = none ↔ key ∉ i.keys := by
  rw [← find?_isSome_iff, Bool.not_eq_true, Option.isSome_eq_false_iff, Option.isNone_iff_eq_none]

/-- The first block under a key is the only one, since keys do not repeat. -/
theorem find?_eq_some_iff (i : Index) (key : BlockKey) (block : Block) :
    i.find? key = some block ↔ (key, block) ∈ i.blocks := by
  obtain ⟨blocks, nodup⟩ := i
  change blocks.lookup key = some block ↔ (key, block) ∈ blocks
  induction blocks with
  | nil => simp
  | cons entry rest ih =>
    obtain ⟨k, b⟩ := entry
    obtain ⟨fresh, nodupRest⟩ := List.nodup_cons.mp nodup
    simp only [List.lookup_cons, List.mem_cons, Prod.mk.injEq]
    by_cases found : key = k
    · subst found
      have absent : (key, block) ∉ rest := fun member =>
        fresh (List.mem_map.mpr ⟨(key, block), member, rfl⟩)
      simp [absent, eq_comm]
    · have apart : (key == k) = false := beq_eq_false_iff_ne.mpr found
      simp only [apart, found, false_and, false_or]
      exact ih nodupRest

def grantAt (i : Index) (key : BlockKey) (a : Access) : Grant :=
  ((i.find? key).getD .empty).grant a

theorem grantAt_of_find? {i : Index} {key : BlockKey} {block : Block}
    (found : i.find? key = some block) (a : Access) : i.grantAt key a = block.grant a := by
  rw [grantAt, found, Option.getD_some]

@[simp] theorem grantAt_empty (key : BlockKey) (a : Access) : empty.grantAt key a = .empty :=
  Block.grant_empty a

/-- The keys and the grants of an index determine what it finds. -/
theorem find?_eq_of_grantAt {i j : Index} {key : BlockKey} (known : key ∈ i.keys ↔ key ∈ j.keys)
    (same : ∀ a, i.grantAt key a = j.grantAt key a) : i.find? key = j.find? key := by
  by_cases present : key ∈ i.keys
  · obtain ⟨b, foundLeft⟩ := Option.isSome_iff_exists.mp ((find?_isSome_iff i key).mpr present)
    obtain ⟨c, foundRight⟩ :=
      Option.isSome_iff_exists.mp ((find?_isSome_iff j key).mpr (known.mp present))
    have equal : b = c := Block.ext_grant fun a => by
      rw [← grantAt_of_find? foundLeft, ← grantAt_of_find? foundRight, same a]
    rw [foundLeft, foundRight, equal]
  · rw [(find?_eq_none_iff i key).mpr present,
      (find?_eq_none_iff j key).mpr fun member => present (known.mpr member)]

private theorem nodup_blocks (i : Index) : i.blocks.Nodup := by
  have distinct := List.pairwise_map.mp i.nodup
  exact distinct.imp fun different equal => different (congrArg Prod.fst equal)

/-- Indexes that find the same blocks list them, up to order. -/
theorem blocks_perm_of_find? {i j : Index} (same : ∀ key, i.find? key = j.find? key) :
    i.blocks.Perm j.blocks := by
  refine (List.perm_ext_iff_of_nodup (nodup_blocks i) (nodup_blocks j)).mpr fun entry => ?_
  obtain ⟨key, block⟩ := entry
  rw [← find?_eq_some_iff, ← find?_eq_some_iff, same]

/-- The empty grant meets no demand. -/
theorem met_empty (demand : Demand) (resource : String) :
    demand.met .empty resource = false := by
  cases demand <;> rfl

/-- A permission is met when the grant of each of its concrete actions meets the demand; a scope
without a block meets nothing, since every action has a concrete one. -/
theorem meets_iff (i : Index) (demand : Demand) (c : Context) (p : Permission) :
    i.meets demand c p = true ↔
      ∀ a ∈ p.action.accesses, demand.met (i.grantAt ⟨c, p.scope⟩ a) p.resource = true := by
  unfold meets
  cases found : i.find? ⟨c, p.scope⟩ with
  | none =>
    refine iff_of_false Bool.false_ne_true fun metAll => ?_
    obtain ⟨a, member⟩ := List.exists_mem_of_ne_nil _ p.action.accesses_ne_nil
    have met := metAll a member
    rw [grantAt, found, Option.getD_none, Block.grant_empty, met_empty] at met
    exact Bool.false_ne_true met
  | some block => simp only [List.all_eq_true, grantAt_of_find? found]

/-- A permission with a concrete action asks for one grant. -/
theorem meets_access_iff (i : Index) (demand : Demand) (c : Context) (scope : String) (a : Access)
    (resource : String) :
    i.meets demand c ⟨scope, a.action, resource⟩ = true ↔
      demand.met (i.grantAt ⟨c, scope⟩ a) resource = true := by
  rw [meets_iff]
  cases a <;> simp [Access.action, Action.accesses]

theorem ask_iff (i : Index) (check : Check) (p : Permission) :
    i.ask check p = true ↔ ∃ c ∈ check.reach.contexts, i.meets check.demand c p = true := by
  rw [ask, List.any_eq_true]

/-- A question about a value that reads as a permission is answered. -/
theorem query_of_read (i : Index) (check : Check) {value : Json} {p : Permission}
    (read : Permission.read value = .ok p) : i.query check value = .ok (i.ask check p) := by
  rw [query, read, Except.map]

theorem query_eq_true_iff (i : Index) (check : Check) (value : Json) :
    i.query check value = .ok true ↔
      ∃ p, Permission.read value = .ok p ∧ i.ask check p = true := by
  cases read : Permission.read value with
  | error e => simp [query, read, Except.map]
  | ok p => simp [query, read, Except.map]

theorem ask_within (i : Index) (demand : Demand) (c : Context) (p : Permission) :
    i.ask ⟨demand, .within c⟩ p = i.meets demand c p :=
  Bool.or_false _

theorem ask_anywhere (i : Index) (demand : Demand) (p : Permission) :
    i.ask ⟨demand, .anywhere⟩ p = (i.meets demand .local p || i.meets demand .global p) :=
  congrArg (_ || ·) (Bool.or_false _)

/-- The answers about a value that reads as a permission, when it is known where the permission is
met: in one context, and in either. -/
theorem query_iff_of_meets (i : Index) {demand : Demand} {value : Json} {p : Permission}
    (read : Permission.read value = .ok p) {held : Context → Prop}
    (met : ∀ c, i.meets demand c p = true ↔ held c) :
    (∀ c, ∃ answer, i.query ⟨demand, .within c⟩ value = .ok answer ∧
      (answer = true ↔ held c)) ∧
    ∃ answer, i.query ⟨demand, .anywhere⟩ value = .ok answer ∧ (answer = true ↔ ∃ c, held c) := by
  refine ⟨fun c => ⟨_, query_of_read i _ read, ?_⟩, _, query_of_read i _ read, ?_⟩
  · rw [ask_within, met]
  · rw [ask_iff]
    simp only [Reach.mem_contexts_anywhere, true_and, met]

/-- A spelled permission is answered in one context by the grants of its scope there. -/
theorem query_spelling (i : Index) (demand : Demand) (c : Context) {p : Permission}
    (named : p.scope ≠ "") (free : Permission.DotFree p.scope)
    (plain : Permission.DotFree p.resource) :
    i.query ⟨demand, .within c⟩ (.str p.spelling) = .ok (i.meets demand c p) := by
  rw [query_of_read _ _ (Permission.read_spelling named free plain), ask_within]

/-- Grants that meet at least as much for a permission never take back a yes. -/
theorem ask_mono {i j : Index} {check : Check} {p : Permission}
    (grow : ∀ c a, check.demand.met (i.grantAt ⟨c, p.scope⟩ a) p.resource = true →
      check.demand.met (j.grantAt ⟨c, p.scope⟩ a) p.resource = true)
    (held : i.ask check p = true) : j.ask check p = true := by
  obtain ⟨c, looked, met⟩ := (ask_iff i check p).mp held
  refine (ask_iff j check p).mpr ⟨c, looked, (meets_iff j check.demand c p).mpr ?_⟩
  intro a concrete
  exact grow c a ((meets_iff i check.demand c p).mp met a concrete)

end Index

end AccessControl
