import AccessControl.Proofs.Compile.Union

/-!
# Compiled indexes told at once

Compiling grants one entry after the other. Here is what it amounts to, told at once for all entries:
a block for each key, in the order in which the keys are first read, and in it for each concrete
action the strongest grant of the resources that the entries name (`Index.reference`). An index lists
its grants in the order of its keys (`blocks_eq_map_keys`), and the grant of some names is the one
that summarises them (`summarises_ofNamed`), so both sides agree (`blocks_ofEntries`).
-/
namespace AccessControl

namespace Grant

/-- The grant of named resources: all when their name is among them, else the default capability
when its name is, else the set of the names. -/
def ofNamed (names : List String) : Grant :=
  if allResources ∈ names then .all
  else if defaultResource ∈ names then .default
  else .specific (.ofList names)

theorem summarises_ofNamed (names : List String) :
    (ofNamed names).Summarises fun name => name ∈ names := by
  unfold ofNamed
  split
  · rename_i someAll
    exact someAll
  · rename_i noAll
    split
    · rename_i someDefault
      exact ⟨noAll, someDefault⟩
    · rename_i noDefault
      exact ⟨noAll, noDefault, fun name => ResourceSet.mem_ofList⟩

/-- The names tell the grant that summarises them. -/
theorem eq_of_summarises {g : Grant} {named : String → Prop} (summary : g.Summarises named) :
    (named allResources → g = .all) ∧
    (¬ named allResources → named defaultResource → g = .default) ∧
    (¬ named allResources → ¬ named defaultResource →
      ∃ names, g = .specific names ∧ ∀ name, name ∈ names ↔ named name) := by
  cases g with
  | all => exact ⟨fun _ => rfl, fun noAll => absurd summary noAll, fun noAll => absurd summary noAll⟩
  | default =>
    exact ⟨fun someAll => absurd someAll summary.1, fun _ _ => rfl,
      fun _ noDefault => absurd summary.2 noDefault⟩
  | specific names =>
    exact ⟨fun someAll => absurd someAll summary.1,
      fun _ someDefault => absurd someDefault summary.2.1, fun _ _ => ⟨names, rfl, summary.2.2⟩⟩

end Grant

/-- The resources that entries name for a key and a concrete action, in reading order. -/
def Entry.resourcesFor (entries : List Entry) (key : BlockKey) (a : Access) : List String :=
  (entries.filter fun e => e.key = key ∧ a ∈ e.permission.action.accesses).map
    fun e => e.permission.resource

theorem Entry.mem_resourcesFor {entries : List Entry} {key : BlockKey} {a : Access}
    {resource : String} :
    resource ∈ Entry.resourcesFor entries key a ↔ ∃ e ∈ entries, e.Names key a resource := by
  unfold Entry.resourcesFor Entry.Names
  simp only [List.mem_map, List.mem_filter, decide_eq_true_eq, and_assoc]

namespace Index

/-- The blocks of entries: one for each key, in the order in which the keys are first read, with the
grants of all that the entries name for it. -/
def reference (entries : List Entry) : List (BlockKey × Block) :=
  (entries.map Entry.key).eraseDups.map fun key =>
    (key, ⟨.ofNamed (Entry.resourcesFor entries key .read),
      .ofNamed (Entry.resourcesFor entries key .write)⟩)

/-- An index lists its grants in the order of its keys. -/
theorem blocks_eq_map_keys (i : Index) :
    i.blocks = i.keys.map fun key => (key, ⟨i.grantAt key .read, i.grantAt key .write⟩) := by
  unfold keys
  rw [List.map_map]
  refine (List.map_id _).symm.trans (List.map_congr_left fun entry member => ?_)
  obtain ⟨key, block⟩ := entry
  have found := (find?_eq_some_iff i key block).mpr member
  change (key, block) = (key, (⟨i.grantAt key .read, i.grantAt key .write⟩ : Block))
  rw [grantAt_of_find? found, grantAt_of_find? found]
  rfl

/-- The grants after a run are those of all names that the entries give. -/
theorem grantAt_ofEntries (entries : List Entry) (key : BlockKey) (a : Access) :
    (ofEntries entries).grantAt key a = .ofNamed (Entry.resourcesFor entries key a) := by
  have start : (empty.grantAt key a).Summarises fun _ => False := by
    rw [grantAt_empty]
    exact Grant.summarises_empty
  have run := summarises_foldl entries start
  refine Grant.summarises_unique (run.congr fun name => ?_) (Grant.summarises_ofNamed _)
  rw [false_or, Entry.mem_resourcesFor]

theorem blocks_ofEntries (entries : List Entry) :
    (ofEntries entries).blocks = reference entries := by
  rw [blocks_eq_map_keys, keys_ofEntries]
  simp only [grantAt_ofEntries]
  rfl

/-- Compiling always gives an index, and this one: its keys are those of the usable entries of the
roles that load, each once and in the order in which they are first read, and each grant is that of
all resources named for its key and action. It is all resources when their name is granted, else the
default capability when its name is, else exactly the set of the granted names. -/
theorem compile_eq_reference (sources : List RoleSource) :
    (compile sources).blocks = reference (Role.allEntries (Role.load sources)) ∧
    (∀ c scope, (⟨c, scope⟩ : BlockKey) ∈ (compile sources).keys ↔
      ∃ r ∈ Role.load sources, r.context = c ∧
        ∃ value ∈ r.permissions, ∃ p, Permission.read? value = some p ∧ p.scope = scope) ∧
    ∀ c scope a,
      (Granted sources c scope a allResources →
        (compile sources).grantAt ⟨c, scope⟩ a = .all) ∧
      (¬ Granted sources c scope a allResources → Granted sources c scope a defaultResource →
        (compile sources).grantAt ⟨c, scope⟩ a = .default) ∧
      (¬ Granted sources c scope a allResources → ¬ Granted sources c scope a defaultResource →
        ∃ names, (compile sources).grantAt ⟨c, scope⟩ a = .specific names ∧
          ∀ name, name ∈ names ↔ Granted sources c scope a name) := by
  exact ⟨blocks_ofEntries _, mem_keys_compile_iff_mentioned sources, fun c scope a =>
    Grant.eq_of_summarises (summarises_compile sources c scope a)⟩

end Index

/-- The default capability comes first and is kept when a name follows; the unusable entry between
them makes no block. -/
theorem compile_localRole_eq_reference :
    (¬ Granted [localRole ["Doc.Read", "Other", "Doc.Read.a"]] .local "Doc" .read allResources ∧
      Granted [localRole ["Doc.Read", "Other", "Doc.Read.a"]] .local "Doc" .read defaultResource) ∧
    (Index.compile [localRole ["Doc.Read", "Other", "Doc.Read.a"]]).grantAt ⟨.local, "Doc"⟩ .read =
      .default := by
  have noAll :
      ¬ Granted [localRole ["Doc.Read", "Other", "Doc.Read.a"]] .local "Doc" .read allResources := by
    rw [granted_iff_entry]
    unfold Entry.Names
    decide
  have someDefault :
      Granted [localRole ["Doc.Read", "Other", "Doc.Read.a"]] .local "Doc" .read defaultResource := by
    rw [granted_iff_entry]
    unfold Entry.Names
    decide
  exact ⟨⟨noAll, someDefault⟩, ((Index.compile_eq_reference _).2.2 .local "Doc" .read).2.1 noAll
    someDefault⟩

end AccessControl
