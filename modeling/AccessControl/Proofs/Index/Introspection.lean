import AccessControl.Proofs.Index.Restrict
import Mathlib.Data.List.Nodup
import Mathlib.Data.List.SplitBy

/-!
# Reading an index back from its introspection list

The introspection list shows the flattened entries of an index as JSON. It can be read back:

* an entry is told by its JSON form (`ofJson?_toJson`), since a special resource name is shown as a
  text and a set of names as a list;
* the entries of a block have one of five shapes (`shape_flatten`), which tell the two grants
  (`ofRun?_flatten`): flags that are both set on a single entry mean that the grants agree, and an
  entry whose action alone is flagged stands alone only where the other grant is empty;
* the entries of a block stand together and those of neighbouring blocks have different keys, so the
  list falls into the blocks that list anything (`splitBy_flatten_eq`).

So the list determines the blocks that are not void, in their order (`ofWire?_wire`).
-/
namespace AccessControl

/-- Values that are written one by one are read back one by one. -/
theorem mapM_map_of_read_write {α β : Type} {write : α → β} {read : β → Option α} {items : List α}
    (back : ∀ a ∈ items, read (write a) = some a) : (items.map write).mapM read = some items := by
  induction items with
  | nil => rfl
  | cons a rest ih =>
    have later := ih fun b member => back b (List.mem_cons_of_mem a member)
    rw [List.map_cons, List.mapM_cons, back a List.mem_cons_self, later]
    rfl

namespace Grant

def nameOf? : Json → Option String
  | .str name => some name
  | _ => none

def ofJson? : Json → Option Grant
  | .str word =>
    if word = allResources then some .all
    else if word = defaultResource then some .default
    else none
  | .arr items => (items.mapM nameOf?).map ofNames
  | _ => none

theorem ofJson?_toJson (g : Grant) : ofJson? g.toJson = some g := by
  cases g with
  | all => rfl
  | default => rfl
  | specific resources =>
    have names : (resources.names.map Json.str).mapM nameOf? = some resources.names :=
      mapM_map_of_read_write fun _ _ => rfl
    rw [toJson, Json.ofTexts, ofJson?, names, Option.map_some, ofNames_names]

end Grant

namespace FlatPermission

def ofJson? (value : Json) : Option FlatPermission :=
  match value.member? "context", value.member? "scope", value.member? "action",
    value.member? "resources" with
  | some (.str context), some (.str scope), some action, some resources =>
    match Context.ofText? context, action.member? "read", action.member? "write",
      Grant.ofJson? resources with
    | some context, some (.bool read), some (.bool write), some resources =>
      some { context, scope, read, write, resources }
    | _, _, _, _ => none
  | _, _, _, _ => none

theorem ofJson?_toJson (e : FlatPermission) : ofJson? e.toJson = some e := by
  have context : e.toJson.member? "context" = some (.str e.context.text) := rfl
  have scope : e.toJson.member? "scope" = some (.str e.scope) := rfl
  have action : e.toJson.member? "action" =
      some (.obj [("read", .bool e.read), ("write", .bool e.write)]) := rfl
  have resources : e.toJson.member? "resources" = some e.resources.toJson := rfl
  have named : Context.ofText? e.context.text = some e.context :=
    Context.ofText?_eq_some_iff.mpr rfl
  simp only [ofJson?, context, scope, action, resources, named, Grant.ofJson?_toJson]
  rfl

theorem toJson_injective : Function.Injective toJson := fun e f same => by
  have back := congrArg ofJson? same
  rw [ofJson?_toJson, ofJson?_toJson] at back
  exact Option.some.inj back

end FlatPermission

namespace Block

def isVoid (b : Block) : Bool := b.read.isEmpty && b.write.isEmpty

/-- The shapes that the entries of a block can have. -/
inductive Shape (key : BlockKey) (b : Block) : List FlatPermission → Prop
  | void (noRead : b.read.isEmpty = true) (noWrite : b.write.isEmpty = true) : Shape key b []
  | joint (same : b.read = b.write) (someRead : b.read.isEmpty = false) :
    Shape key b [⟨key.context, key.scope, true, true, b.read⟩]
  | reading (someRead : b.read.isEmpty = false) (noWrite : b.write.isEmpty = true) :
    Shape key b [⟨key.context, key.scope, true, false, b.read⟩]
  | writing (noRead : b.read.isEmpty = true) (someWrite : b.write.isEmpty = false) :
    Shape key b [⟨key.context, key.scope, false, true, b.write⟩]
  | apart (differ : b.read ≠ b.write) (someRead : b.read.isEmpty = false)
    (someWrite : b.write.isEmpty = false) :
    Shape key b [⟨key.context, key.scope, true, b.write.includes b.read, b.read⟩,
      ⟨key.context, key.scope, b.read.includes b.write, true, b.write⟩]

theorem shape_flatten (key : BlockKey) (b : Block) : Shape key b (b.flatten key) := by
  unfold flatten
  by_cases same : b.read = b.write
  · rw [if_pos same]
    cases noRead : b.read.isEmpty with
    | true => exact .void noRead (same ▸ noRead)
    | false => exact .joint same noRead
  · rw [if_neg same]
    cases noRead : b.read.isEmpty with
    | true =>
      cases noWrite : b.write.isEmpty with
      | true =>
        -- two empty grants are equal, and equal grants were the first case
        have both : b.read = b.write :=
          (Grant.eq_empty_of_isEmpty noRead).trans (Grant.eq_empty_of_isEmpty noWrite).symm
        exact absurd both same
      | false =>
        rw [Grant.not_includes_of_isEmpty noRead noWrite]
        exact .writing noRead noWrite
    | false =>
      cases noWrite : b.write.isEmpty with
      | true =>
        rw [Grant.not_includes_of_isEmpty noWrite noRead]
        exact .reading noRead noWrite
      | false => exact .apart same noRead noWrite

/-- The block that a run of entries with one key stems from. -/
def ofRun? : List FlatPermission → Option (BlockKey × Block)
  | [e] =>
    some (e.key, ⟨if e.read then e.resources else .empty, if e.write then e.resources else .empty⟩)
  | [e, f] => some (e.key, ⟨e.resources, f.resources⟩)
  | _ => none

theorem ofRun?_flatten (key : BlockKey) {b : Block} (something : b.isVoid = false) :
    ofRun? (b.flatten key) = some (key, b) := by
  obtain ⟨read, write⟩ := b
  -- the run is generalised so that its shape can be taken apart
  have shape := shape_flatten key ⟨read, write⟩
  revert shape
  generalize flatten key ⟨read, write⟩ = run
  intro shape
  cases shape with
  | void noRead noWrite =>
    rw [isVoid, noRead, noWrite] at something
    cases something
  | joint same someRead =>
    cases same
    rfl
  | reading someRead noWrite =>
    cases Grant.eq_empty_of_isEmpty noWrite
    rfl
  | writing noRead someWrite =>
    cases Grant.eq_empty_of_isEmpty noRead
    rfl
  | apart => rfl

theorem Shape.key_eq {key : BlockKey} {b : Block} {run : List FlatPermission}
    (shape : Shape key b run) : ∀ e ∈ run, e.key = key := by
  cases shape <;> simp [FlatPermission.key]

theorem Shape.nodup {key : BlockKey} {b : Block} {run : List FlatPermission}
    (shape : Shape key b run) : run.Nodup := by
  cases shape with
  | void => exact List.nodup_nil
  | joint | reading | writing => exact List.nodup_singleton _
  | apart differ => simp [differ]

/-- A block that is not void lists one entry, or the one made for reading before the one made for
writing. -/
theorem Shape.one_or_two {key : BlockKey} {b : Block} {run : List FlatPermission}
    (shape : Shape key b run) (something : b.isVoid = false) :
    (∃ e, run = [e]) ∨ ∃ e f, run = [e, f] ∧ (e.read = true ∧ e.resources = b.read) ∧
      f.write = true ∧ f.resources = b.write := by
  cases shape with
  | void noRead noWrite =>
    rw [isVoid, noRead, noWrite] at something
    cases something
  | joint | reading | writing => exact Or.inl ⟨_, rfl⟩
  | apart => exact Or.inr ⟨_, _, rfl, ⟨rfl, rfl⟩, rfl, rfl⟩

theorem Shape.ne_nil {key : BlockKey} {b : Block} {run : List FlatPermission}
    (shape : Shape key b run) (something : b.isVoid = false) : run ≠ [] := by
  rcases shape.one_or_two something with ⟨e, rfl⟩ | ⟨e, f, rfl, -⟩
  · exact List.cons_ne_nil e []
  · exact List.cons_ne_nil e [f]

theorem flatten_of_isVoid (key : BlockKey) {b : Block} (nothing : b.isVoid = true) :
    b.flatten key = [] := by
  obtain ⟨noRead, noWrite⟩ := Bool.and_eq_true_iff.mp nothing
  rw [flatten, Grant.eq_empty_of_isEmpty noRead, Grant.eq_empty_of_isEmpty noWrite]
  rfl

theorem grant_of_isVoid {b : Block} (nothing : b.isVoid = true) (a : Access) :
    b.grant a = .empty := by
  obtain ⟨noRead, noWrite⟩ := Bool.and_eq_true_iff.mp nothing
  cases a with
  | read => exact Grant.eq_empty_of_isEmpty noRead
  | write => exact Grant.eq_empty_of_isEmpty noWrite

end Block

namespace Index

/-- The introspection list: the flattened entries as they are shown. -/
def wire (i : Index) : List Json := i.flatten.map FlatPermission.toJson

/-- The index without the blocks in which nothing is granted. -/
def substantial (i : Index) : Index := i.filter fun _ block => !block.isVoid

/-- The blocks that an introspection list shows: it is read entry by entry and cut where the key
changes. -/
def ofWire? (shown : List Json) : Option (List (BlockKey × Block)) :=
  (shown.mapM FlatPermission.ofJson?).bind fun entries =>
    (entries.splitBy fun e f => e.key = f.key).mapM Block.ofRun?

theorem isVoid_of_mem_substantial {i : Index} {entry : BlockKey × Block}
    (member : entry ∈ i.substantial.blocks) : entry.2.isVoid = false := by
  have kept := (List.mem_filter.mp member).2
  rwa [Bool.not_eq_true'] at kept

def runs (i : Index) : List (List FlatPermission) :=
  i.substantial.blocks.map fun entry => entry.2.flatten entry.1

/-- Void blocks list nothing. -/
theorem flatten_runs (i : Index) : i.runs.flatten = i.flatten := by
  have general : ∀ blocks : List (BlockKey × Block),
      (blocks.filter fun entry => !entry.2.isVoid).flatMap (fun entry => entry.2.flatten entry.1) =
        blocks.flatMap fun entry => entry.2.flatten entry.1 := by
    intro blocks
    induction blocks with
    | nil => rfl
    | cons entry rest ih =>
      rw [List.filter_cons, List.flatMap_cons]
      cases nothing : entry.2.isVoid with
      | true =>
        rw [if_neg (by decide), ih, Block.flatten_of_isVoid entry.1 nothing, List.nil_append]
      | false => rw [if_pos (by decide), List.flatMap_cons, ih]
  rw [runs, ← List.flatMap_def]
  exact general i.blocks

theorem ne_nil_of_mem_runs {i : Index} {run : List FlatPermission} (member : run ∈ i.runs) :
    run ≠ [] := by
  obtain ⟨entry, listed, rfl⟩ := List.mem_map.mp member
  exact (Block.shape_flatten entry.1 entry.2).ne_nil (isVoid_of_mem_substantial listed)

/-- Neighbouring runs have different keys. -/
theorem runs_apart (i : Index) : i.runs.Pairwise fun run next =>
    ∀ e ∈ run, ∀ f ∈ next, e.key ≠ f.key := by
  have distinct := List.pairwise_map.mp i.substantial.nodup
  refine List.pairwise_map.mpr (distinct.imp fun {x y} differ e first f second same => ?_)
  rw [(Block.shape_flatten x.1 x.2).key_eq e first,
    (Block.shape_flatten y.1 y.2).key_eq f second] at same
  exact differ same

/-- Cut where the key changes, the flattened view falls into the entries of its blocks. -/
theorem splitBy_flatten_eq (i : Index) :
    (i.flatten.splitBy fun e f => e.key = f.key) = i.runs := by
  have uniform : ∀ run ∈ i.runs, run.IsChain fun e f => decide (e.key = f.key) = true := by
    intro run member
    obtain ⟨entry, -, rfl⟩ := List.mem_map.mp member
    have keyed := (Block.shape_flatten entry.1 entry.2).key_eq
    refine (List.pairwise_of_forall_mem_list fun e first f second => ?_).isChain
    rw [keyed e first, keyed f second, decide_eq_true rfl]
  have apart := (runs_apart i).isChain
  rw [← flatten_runs]
  -- a cut falls between two runs, since the last key before it and the first behind it differ
  refine List.splitBy_flatten (fun listed => ne_nil_of_mem_runs listed rfl) uniform ?_
  refine apart.imp_of_mem_imp fun run next first second differ => ?_
  have nonempty := ne_nil_of_mem_runs first
  have more := ne_nil_of_mem_runs second
  exact ⟨nonempty, more, decide_eq_false (differ _ (List.getLast_mem nonempty) _ (List.head_mem more))⟩

theorem ofWire?_wire (i : Index) : ofWire? i.wire = some i.substantial.blocks := by
  have entries : i.wire.mapM FlatPermission.ofJson? = some i.flatten :=
    mapM_map_of_read_write fun e _ => FlatPermission.ofJson?_toJson e
  rw [ofWire?, entries, Option.bind_some, splitBy_flatten_eq]
  exact mapM_map_of_read_write fun entry member =>
    Block.ofRun?_flatten entry.1 (isVoid_of_mem_substantial member)

/-- No entry is listed twice: entries of one block differ, and so do the keys of two. -/
theorem nodup_flatten (i : Index) : i.flatten.Nodup := by
  rw [← flatten_runs]
  refine List.nodup_flatten.mpr ⟨fun run member => ?_, (runs_apart i).imp fun apart e first second =>
    apart e first e second rfl⟩
  obtain ⟨entry, -, rfl⟩ := List.mem_map.mp member
  exact (Block.shape_flatten entry.1 entry.2).nodup

theorem nodup_wire (i : Index) : i.wire.Nodup :=
  (nodup_flatten i).map FlatPermission.toJson_injective

/-- Void blocks grant what no block grants. -/
theorem grantAt_substantial (i : Index) (key : BlockKey) (a : Access) :
    i.substantial.grantAt key a = i.grantAt key a := by
  unfold grantAt substantial
  rw [find?_filter]
  cases i.find? key with
  | none => rfl
  | some block =>
    rw [Option.filter_some]
    cases nothing : block.isVoid with
    | true =>
      rw [if_neg (by decide), Option.getD_none, Option.getD_some, Block.grant_empty,
        Block.grant_of_isVoid nothing]
    | false => rw [if_pos (by decide)]

/-- Indexes with the same grants answer every check alike. -/
theorem query_congr_grantAt {i j : Index} (same : ∀ key a, i.grantAt key a = j.grantAt key a)
    (check : Check) (value : Json) : i.query check value = j.query check value := by
  have met : ∀ c p, i.meets check.demand c p = j.meets check.demand c p := by
    intro c p
    rw [Bool.eq_iff_iff, meets_iff, meets_iff]
    exact forall₂_congr fun a _ => by rw [same]
  have asked : i.ask check = j.ask check := funext fun p => by
    rw [ask, ask]
    simp only [met]
  rw [query, query, asked]

/-- Equal introspection lists come from the same blocks, void ones aside. -/
theorem substantial_eq_of_wire {i j : Index} (same : i.wire = j.wire) :
    i.substantial = j.substantial := by
  have back := congrArg ofWire? same
  rw [ofWire?_wire, ofWire?_wire] at back
  exact ext_blocks (Option.some.inj back)

end Index

end AccessControl
