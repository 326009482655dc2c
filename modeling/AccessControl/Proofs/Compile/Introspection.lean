import AccessControl.Proofs.Compile.Union
import AccessControl.Proofs.Index.Introspection

/-!
# The introspection list of compiled roles

A compiled index has no void blocks, since a block is made where something is granted
(`isVoid_of_mem_compile`). So the introspection list tells the whole index, in its order, and users
with the same list may do the same.
-/
namespace AccessControl.Index

/-- Every compiled block grants something. -/
theorem isVoid_of_mem_compile {sources : List RoleSource} {entry : BlockKey × Block}
    (member : entry ∈ (compile sources).blocks) : entry.2.isVoid = false := by
  obtain ⟨key, block⟩ := entry
  have known : key ∈ (compile sources).keys := List.mem_map.mpr ⟨_, member, rfl⟩
  obtain ⟨a, resource, granted⟩ := (mem_keys_compile_iff sources key.context key.scope).mp known
  have summary := summarises_compile sources key.context key.scope a
  rw [grantAt_of_find? ((find?_eq_some_iff _ key block).mpr member)] at summary
  rw [Bool.eq_false_iff]
  intro nothing
  have vacant : (block.grant a).isEmpty = true := by
    rw [Block.grant_of_isVoid nothing]
    rfl
  exact (Grant.isEmpty_iff_of_summarises summary).mp vacant resource granted

theorem substantial_compile (sources : List RoleSource) :
    (compile sources).substantial = compile sources := by
  refine ext_blocks (List.filter_eq_self.mpr fun entry member => ?_)
  have kept : (!entry.2.isVoid) = true := by rw [isVoid_of_mem_compile member, Bool.not_false]
  exact kept

/-- The introspection list loses nothing. Of every index it tells the blocks in which something is
granted: it can be read back, it falls into their entries where the key changes, each block has one
entry or the one for reading before the one for writing, and nothing is listed twice. So indexes with
the same list differ in void blocks at most, which no check sees. A compiled index has none, its keys
come in the order in which they are first read, and roles with the same list have the same index and
the same answers. -/
theorem wire_tells_index :
    (∀ i : Index,
      ofWire? i.wire = some i.substantial.blocks ∧
      (i.flatten.splitBy fun e f => e.key = f.key) =
        i.substantial.blocks.map (fun entry => entry.2.flatten entry.1) ∧
      (∀ entry ∈ i.substantial.blocks, (∃ e, entry.2.flatten entry.1 = [e]) ∨
        ∃ e f, entry.2.flatten entry.1 = [e, f] ∧ (e.read = true ∧ e.resources = entry.2.read) ∧
          f.write = true ∧ f.resources = entry.2.write) ∧
      i.wire.Nodup) ∧
    (∀ i j : Index, i.wire = j.wire →
      i.substantial = j.substantial ∧ ∀ check value, i.query check value = j.query check value) ∧
    (∀ sources : List RoleSource,
      ofWire? (compile sources).wire = some (compile sources).blocks ∧
      (compile sources).keys = ((Role.allEntries (Role.load sources)).map Entry.key).eraseDups) ∧
    ∀ sources others : List RoleSource, (compile sources).wire = (compile others).wire →
      compile sources = compile others ∧
      (∀ check value, (compile sources).query check value = (compile others).query check value) ∧
      ∀ value, (compile sources).queryContext value = (compile others).queryContext value := by
  refine ⟨fun i => ⟨ofWire?_wire i, splitBy_flatten_eq i, fun entry member => ?_, nodup_wire i⟩,
    fun i j same => ?_, fun sources => ⟨?_, keys_compile sources⟩, fun sources others same => ?_⟩
  · exact (Block.shape_flatten entry.1 entry.2).one_or_two (isVoid_of_mem_substantial member)
  · have part := substantial_eq_of_wire same
    refine ⟨part, query_congr_grantAt fun key a => ?_⟩
    rw [← grantAt_substantial i, ← grantAt_substantial j, part]
  · rw [ofWire?_wire, substantial_compile]
  · have equal : compile sources = compile others := by
      rw [← substantial_compile sources, ← substantial_compile others, substantial_eq_of_wire same]
    exact ⟨equal, fun check value => by rw [equal], fun value => by rw [equal]⟩

/-- Two wordings of the same roles are told apart by nothing. -/
theorem wire_localRole_tells_index :
    (unevenIndex.wire = (ofList (unevenIndex.blocks.take 1)).wire ∧
      unevenIndex.substantial = (ofList (unevenIndex.blocks.take 1)).substantial) ∧
    (compile [localRole ["Doc.ReadWrite.a"]]).wire =
        (compile [localRole ["Doc.Write.a", "Doc.Read.a"]]).wire ∧
      compile [localRole ["Doc.ReadWrite.a"]] = compile [localRole ["Doc.Write.a", "Doc.Read.a"]] := by
  have uneven : unevenIndex.wire = (ofList (unevenIndex.blocks.take 1)).wire := rfl
  have same : (compile [localRole ["Doc.ReadWrite.a"]]).wire =
      (compile [localRole ["Doc.Write.a", "Doc.Read.a"]]).wire := rfl
  exact ⟨⟨uneven, (wire_tells_index.2.1 _ _ uneven).1⟩, same, (wire_tells_index.2.2.2 _ _ same).1⟩

end AccessControl.Index
