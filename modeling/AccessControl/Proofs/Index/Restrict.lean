import AccessControl.Proofs.Index.Flatten

/-!
# Parts of an index

`Index.filter` keeps the blocks that pass a test, in their order. What is asked of an index looks at
the blocks of one scope in some contexts, so a part of the index that has these blocks answers as
the whole does.

* `find?_filter`: look-up in the part is look-up in the whole, followed by the test;
* `filter_insert`: writing a block under a key that is kept writes it into the part, and writing any
  other block leaves the part alone;
* `flatten_filter`: the flattened view of a part is the part of the flattened view;
* `query_congr_on`, `queryContext_congr_on`: the answers depend on the blocks that are looked at.
-/
namespace AccessControl

/-- Where a test treats the members of a group alike, testing the members keeps whole groups. -/
theorem filter_flatMap_of_uniform {α β : Type} {group : α → List β} {kept : α → Bool}
    {test : β → Bool} (uniform : ∀ a, ∀ b ∈ group a, test b = kept a) (items : List α) :
    (items.flatMap group).filter test = (items.filter kept).flatMap group := by
  induction items with
  | nil => rfl
  | cons a rest ih =>
    rw [List.flatMap_cons, List.filter_append, ih, List.filter_cons]
    by_cases keep : kept a = true
    · have whole : (group a).filter test = group a :=
        List.filter_eq_self.mpr fun b member => (uniform a b member).trans keep
      rw [whole, if_pos keep, List.flatMap_cons]
    · have dropped : (group a).filter test = [] :=
        List.filter_eq_nil_iff.mpr fun b member passed => keep ((uniform a b member).symm.trans passed)
      rw [dropped, if_neg keep, List.nil_append]

def FlatPermission.key (e : FlatPermission) : BlockKey := ⟨e.context, e.scope⟩

namespace Index

/-- Indexes with the same blocks in the same order are equal. -/
theorem ext_blocks {i j : Index} (same : i.blocks = j.blocks) : i = j := by
  cases i
  cases j
  cases same
  rfl

def filter (keep : BlockKey → Block → Bool) (i : Index) : Index :=
  ⟨i.blocks.filter fun entry => keep entry.1 entry.2,
    i.nodup.sublist (List.filter_sublist.map Prod.fst)⟩

theorem find?_filter (keep : BlockKey → Block → Bool) (i : Index) (key : BlockKey) :
    (i.filter keep).find? key = (i.find? key).filter (keep key) := by
  ext block
  rw [find?_eq_some_iff, filter, List.mem_filter, ← find?_eq_some_iff, Option.filter_eq_some_iff]

/-- A key that is kept is found in the part as in the whole. -/
theorem find?_filter_of_keep (keep : BlockKey → Bool) {key : BlockKey} (kept : keep key = true)
    (i : Index) : (i.filter fun k _ => keep k).find? key = i.find? key := by
  rw [find?_filter]
  cases i.find? key with
  | none => rfl
  | some block => rw [Option.filter_some, if_pos kept]

private theorem filter_assign (keep : BlockKey → Bool) (key : BlockKey) (block : Block)
    (blocks : List (BlockKey × Block)) :
    (assign key block blocks).filter (fun entry => keep entry.1) =
      if keep key then assign key block (blocks.filter fun entry => keep entry.1)
      else blocks.filter fun entry => keep entry.1 := by
  induction blocks with
  | nil => by_cases kept : keep key = true <;> simp [assign, kept]
  | cons entry rest ih =>
    obtain ⟨k, b⟩ := entry
    by_cases same : k = key
    · subst same
      by_cases kept : keep k = true <;> simp [assign, kept]
    · by_cases other : keep k = true
      · by_cases kept : keep key = true <;> simp [assign, same, other, kept, ih]
      · simp [assign, same, other, ih]

/-- A block written under a key that is kept goes into the part; any other leaves it alone. -/
theorem filter_insert (keep : BlockKey → Bool) (i : Index) (key : BlockKey) (block : Block) :
    (i.insert key block).filter (fun k _ => keep k) =
      if keep key then (i.filter fun k _ => keep k).insert key block
      else i.filter fun k _ => keep k := by
  apply ext_blocks
  have written := filter_assign keep key block i.blocks
  split
  · rename_i kept
    rwa [if_pos kept] at written
  · rename_i dropped
    rwa [if_neg dropped] at written

/-- The flattened view of a part is the part of the flattened view. -/
theorem flatten_filter (keep : BlockKey → Bool) (i : Index) :
    (i.filter fun key _ => keep key).flatten = i.flatten.filter fun e => keep e.key := by
  have uniform : ∀ entry : BlockKey × Block, ∀ e ∈ entry.2.flatten entry.1,
      keep e.key = keep entry.1 := fun entry e member =>
    congrArg keep (Block.key_of_mem_flatten member)
  exact (filter_flatMap_of_uniform uniform i.blocks).symm

/-- A question is answered by the blocks of its permission's scope in the contexts it looks at. -/
theorem query_congr_on {i j : Index} {check : Check} {value : Json}
    (same : ∀ p, Permission.read value = .ok p →
      ∀ c ∈ check.reach.contexts, i.find? ⟨c, p.scope⟩ = j.find? ⟨c, p.scope⟩) :
    i.query check value = j.query check value := by
  cases read : Permission.read value with
  | error e => simp only [query, read, Except.map]
  | ok p =>
    rw [query_of_read i check read, query_of_read j check read]
    have met : ∀ c ∈ check.reach.contexts, i.meets check.demand c p = j.meets check.demand c p := by
      intro c looked
      rw [meets, meets, same p read c looked]
    have asked : i.ask check p = j.ask check p := by
      rw [Bool.eq_iff_iff, ask_iff, ask_iff]
      exact exists_congr fun c => and_congr_right fun looked => by rw [met c looked]
    rw [asked]

/-- The contexts of a scope are told by its blocks. -/
theorem queryContext_congr_on {i j : Index} {value : Json}
    (same : ∀ scope, Permission.readScope value = .ok scope →
      ∀ c, i.find? ⟨c, scope⟩ = j.find? ⟨c, scope⟩) :
    i.queryContext value = j.queryContext value := by
  cases read : Permission.readScope value with
  | error e => simp only [queryContext, read, Except.map]
  | ok scope =>
    simp only [queryContext, read, Except.map, contextsOf, same scope read]

end Index

end AccessControl
