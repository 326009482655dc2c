import AccessControl.Proofs.Compile.Reference
import AccessControl.Proofs.Compile.Tolerance
import AccessControl.Proofs.Index.Demands

/-!
# Canonical spellings

The canonical spelling of a permission leaves the default resource out, and a permission may be
spelled in other ways too: with the default resource named, or with more segments than are read.

* `Permission.read_text_iff`: the canonical spelling is read back as the permission, and
  `text_eq_iff_of_read` tells permissions apart;
* `Permission.Respelled`, `RoleSource.Respelled`: canonical spellings put in place of accepted
  entries, one by one;
* an index depends on its entries as they are first met alone (`Index.ofEntries_congr`), and these
  stay the same (`Index.compile_of_respelled`);
* `Index.query_text`, `queryContext_text`: a question is answered for the permission that it names.
-/
namespace AccessControl

namespace Permission

variable {value other : Json} {p q : Permission}

/-- The canonical spelling is read back exactly where there is a scope and no segment holds a
separator. -/
theorem read_text_iff :
    read (.str p.text) = .ok p ↔ p.scope ≠ "" ∧ DotFree p.scope ∧ DotFree p.resource :=
  ⟨dotFree_of_read, fun ⟨named, free, plain⟩ => read_text named free plain⟩

/-- What is read is read from its canonical spelling too. -/
theorem read_text_of_read (accepted : read value = .ok p) : read (.str p.text) = .ok p :=
  read_text_iff.mpr (dotFree_of_read accepted)

/-- No two permissions that are read have one canonical spelling. -/
theorem text_eq_iff_of_read (first : read value = .ok p) (second : read other = .ok q) :
    p.text = q.text ↔ p = q := by
  refine ⟨fun same => ?_, congrArg text⟩
  have read := read_text_of_read first
  rw [same, read_text_of_read second] at read
  exact (Except.ok.inj read).symm

/-- The second value is the first or, where that is accepted as a grant, its canonical spelling. -/
inductive Respelled (value : Json) : Json → Prop
  | same : Respelled value value
  | canonical {p : Permission} (accepted : read? value = some p) : Respelled value (.str p.text)

theorem Respelled.read?_eq (respelled : Respelled value other) : read? other = read? value := by
  cases respelled with
  | same => rfl
  | canonical accepted =>
    rw [accepted]
    exact read?_eq_some_iff.mpr (read_text_of_read (read?_eq_some_iff.mp accepted))

/-- Respelled entries are taken for the same permissions, whatever is made of them. -/
theorem filterMap_of_respelled {values others : List Json}
    (respelled : List.Forall₂ Respelled values others) (f : Permission → Entry) :
    others.filterMap (fun value => (read? value).map f) =
      values.filterMap fun value => (read? value).map f := by
  induction respelled with
  | nil => rfl
  | cons here _ ih => rw [List.filterMap_cons, List.filterMap_cons, here.read?_eq, ih]

end Permission

/-- The second source is the first, or it loads as the same role with accepted entries respelled. Of
entries that have become equal only the first one need be left. -/
inductive RoleSource.Respelled (source : RoleSource) : RoleSource → Prop
  | same : Respelled source source
  | entries {other : RoleSource} {r s : Role} {spelled : List Json} (loads : source.role? = some r)
    (others : other.role? = some s) (context : s.context = r.context)
    (respelled : List.Forall₂ Permission.Respelled r.permissions spelled)
    (listed : s.permissions.eraseDups = spelled.eraseDups) : Respelled source other

/-- A role that is written with its entries respelled has the same entries, repetitions aside. -/
theorem Role.eraseDups_entries_of_respelled {r s : Role} {spelled : List Json}
    (context : s.context = r.context)
    (respelled : List.Forall₂ Permission.Respelled r.permissions spelled)
    (listed : s.permissions.eraseDups = spelled.eraseDups) :
    s.entries.eraseDups = r.entries.eraseDups := by
  rw [Role.entries, Role.entries, context, eraseDups_filterMap_congr listed,
    Permission.filterMap_of_respelled respelled]

/-- Respelled sources have the same entries, repetitions aside. -/
theorem Role.eraseDups_allEntries_of_respelled {sources others : List RoleSource}
    (respelled : List.Forall₂ RoleSource.Respelled sources others) :
    (Role.allEntries (Role.load others)).eraseDups =
      (Role.allEntries (Role.load sources)).eraseDups := by
  unfold Role.load Role.allEntries
  induction respelled with
  | nil => rfl
  | @cons source other _ _ here _ ih =>
    cases here with
    | same =>
      rw [List.filterMap_cons, List.filterMap_cons]
      cases source.role? with
      | none => exact ih
      | some r => exact eraseDups_append_congr rfl ih
    | entries loads others context respelled listed =>
      rw [List.filterMap_cons_some loads, List.filterMap_cons_some others]
      exact eraseDups_append_congr
        (Role.eraseDups_entries_of_respelled context respelled listed) ih

namespace Index

/-- An index depends on its entries as they are first met alone. -/
theorem ofEntries_congr {entries others : List Entry}
    (same : entries.eraseDups = others.eraseDups) : ofEntries entries = ofEntries others := by
  have keys : (entries.map Entry.key).eraseDups = (others.map Entry.key).eraseDups := by
    simp only [← List.filterMap_eq_map, eraseDups_filterMap_congr same]
  have granted : ∀ key a, Grant.ofNamed (Entry.resourcesFor entries key a) =
      Grant.ofNamed (Entry.resourcesFor others key a) := fun key a => by
    refine Grant.summarises_unique (Grant.summarises_ofNamed _)
      ((Grant.summarises_ofNamed _).congr fun name => ?_)
    simp only [Entry.mem_resourcesFor, mem_iff_of_eraseDups same]
  apply ext_blocks
  rw [blocks_ofEntries, blocks_ofEntries, reference, reference, keys]
  simp only [granted]

theorem compile_of_respelled {sources others : List RoleSource}
    (respelled : List.Forall₂ RoleSource.Respelled sources others) :
    compile others = compile sources :=
  ofEntries_congr (Role.eraseDups_allEntries_of_respelled respelled)

variable (i : Index) {value : Json} {p : Permission}

theorem query_text (accepted : Permission.read value = .ok p) (check : Check) :
    i.query check (.str p.text) = i.query check value := by
  rw [query, query, accepted, Permission.read_text_of_read accepted]

theorem queryContext_text (accepted : Permission.read value = .ok p) :
    i.queryContext (.str p.text) = i.queryContext value := by
  rw [queryContext_of_readScope i (Permission.readScope_of_read accepted),
    queryContext_of_readScope i
      (Permission.readScope_of_read (Permission.read_text_of_read accepted))]

/-- Printing and reading are inverse to each other, and a canonical spelling does for any other. It
is read back exactly for permissions with a scope and without separators in their segments, which
are all that are read, and it tells these apart. Put in place of accepted entries, whichever and
wherever in the sources, it leaves the index as it was, its order included; and every question put
to any index is answered alike for a permission and for its canonical spelling. -/
theorem canonical_text_interchangeable :
    ((∀ p : Permission, Permission.read (.str p.text) = .ok p ↔
        p.scope ≠ "" ∧ Permission.DotFree p.scope ∧ Permission.DotFree p.resource) ∧
      (∀ value p, Permission.read value = .ok p → Permission.read (.str p.text) = .ok p) ∧
      ∀ value other p q, Permission.read value = .ok p → Permission.read other = .ok q →
        (p.text = q.text ↔ p = q)) ∧
    ((∀ sources others, List.Forall₂ RoleSource.Respelled sources others →
        compile others = compile sources) ∧
      ∀ before after members items spelled,
        members.lookup "permissions" = some (.arr items) →
        List.Forall₂ Permission.Respelled items spelled →
        compile (before ++ .data (.obj (Json.assign members "permissions" (.arr spelled))) :: after) =
          compile (before ++ .data (.obj members) :: after)) ∧
    ∀ (i : Index) value p, Permission.read value = .ok p →
      (∀ check, i.query check (.str p.text) = i.query check value) ∧
      i.queryContext (.str p.text) = i.queryContext value := by
  refine ⟨⟨fun p => Permission.read_text_iff, fun _ _ => Permission.read_text_of_read,
    fun _ _ _ _ => Permission.text_eq_iff_of_read⟩, ⟨fun _ _ => compile_of_respelled, ?_⟩,
    fun i _ _ accepted => ⟨i.query_text accepted, i.queryContext_text accepted⟩⟩
  intro before after members items spelled listed respelled
  cases loads : Role.ofJson (.obj members) with
  | error e =>
    obtain ⟨e', fails⟩ := Role.ofJson_assign_of_error loads listed spelled
    rw [compile_of_error loads, compile_of_error fails]
  | ok r =>
    have entries : r.permissions = items := by
      have taken := ((Role.ofJson_eq_ok_iff members r).mp loads).2.2.1
      rw [listed, Role.entriesOf_list] at taken
      exact (Option.some.inj taken).symm
    have here : RoleSource.Respelled (.data (.obj members)) _ :=
      .entries (RoleSource.role?_data loads) (RoleSource.role?_data (Role.ofJson_assign loads spelled))
        rfl (entries ▸ respelled) rfl
    have unchanged : ∀ sources, List.Forall₂ RoleSource.Respelled sources sources :=
      fun sources => List.forall₂_same.mpr fun _ _ => .same
    exact compile_of_respelled (List.rel_append (unchanged before) (.cons here (unchanged after)))

end Index

/-- A role whose entries are the keys of an object, among them two spellings of one permission. -/
def keyedRole (keys : List String) : RoleSource :=
  .data (.obj [("id", .int 3), ("context", .str "global"),
    ("permissions", .obj (keys.map fun key => (key, .null)))])

/-- Two keys that become equal are one key then. -/
theorem respelled_keyedRole :
    (keyedRole ["Doc.Read", "Doc.Read.__INTERNAL::[DEFAULT]__", "Doc", "Other.Write"]).Respelled
      (keyedRole ["Doc.Read", "Doc", "Other.Write"]) := by
  have spelled : List.Forall₂ Permission.Respelled
      [.str "Doc.Read", .str "Doc.Read.__INTERNAL::[DEFAULT]__", .str "Doc", .str "Other.Write"]
      [.str "Doc.Read", .str "Doc.Read", .str "Doc", .str "Other.Write"] :=
    .cons .same (.cons (.canonical (p := ⟨"Doc", .read, defaultResource⟩) rfl)
      (.cons .same (.cons .same .nil)))
  exact .entries rfl rfl rfl spelled (by decide)

/-- A writer's data, with an entry that names the default resource and a segment too many. -/
def wordyWriterData : List (String × Json) :=
  [("id", .str "writer"), ("context", .str "local"),
    ("permissions", .arr [.str "Doc.Write.__INTERNAL::[DEFAULT]__.old", .int 7])]

/-- Of two equal entries of a list one is respelled, and keys of an object are; the index stays the
same. An empty resource and an omitted one have canonical spellings of their own. -/
theorem canonical_text_keyedRole :
    (Permission.read (.str "Doc.Read.") = .ok ⟨"Doc", .read, ""⟩ ∧
      Permission.read (.str "Doc.Read") = .ok ⟨"Doc", .read, defaultResource⟩ ∧
      (Permission.text ⟨"Doc", .read, ""⟩ = Permission.text ⟨"Doc", .read, defaultResource⟩ ↔
        (⟨"Doc", .read, ""⟩ : Permission) = ⟨"Doc", .read, defaultResource⟩)) ∧
    Index.compile [keyedRole ["Doc.Read", "Doc", "Other.Write"],
        localRole ["Doc.Read.a", "Doc.Read.a.old"]] =
      Index.compile [
        keyedRole ["Doc.Read", "Doc.Read.__INTERNAL::[DEFAULT]__", "Doc", "Other.Write"],
        localRole ["Doc.Read.a.old", "Doc.Read.a.old"]] ∧
    Index.compile [.data (.obj (Json.assign wordyWriterData "permissions"
        (.arr [.str "Doc.Write", .int 7])))] =
      Index.compile [.data (.obj wordyWriterData)] ∧
    (Permission.read (.str "Doc.Read.a.old") = .ok ⟨"Doc", .read, "a"⟩ ∧
      Permission.read (.str "Doc.Read.a") = .ok ⟨"Doc", .read, "a"⟩ ∧
      (Index.compile [localRole ["Doc.Read.a"]]).query ⟨.resource, .anywhere⟩ (.str "Doc.Read.a") =
        (Index.compile [localRole ["Doc.Read.a"]]).query ⟨.resource, .anywhere⟩
          (.str "Doc.Read.a.old")) := by
  obtain ⟨⟨-, readBack, distinct⟩, ⟨sources, listed⟩, questions⟩ :=
    Index.canonical_text_interchangeable
  have bare : Permission.read (.str "Doc.Read.") = .ok ⟨"Doc", .read, ""⟩ := rfl
  have omitted : Permission.read (.str "Doc.Read") = .ok ⟨"Doc", .read, defaultResource⟩ := rfl
  have longer : Permission.read (.str "Doc.Read.a.old") = .ok ⟨"Doc", .read, "a"⟩ := rfl
  have editor : (localRole ["Doc.Read.a.old", "Doc.Read.a.old"]).Respelled
      (localRole ["Doc.Read.a", "Doc.Read.a.old"]) :=
    .entries rfl rfl rfl (.cons (.canonical (p := ⟨"Doc", .read, "a"⟩) rfl) (.cons .same .nil)) rfl
  have writer : List.Forall₂ Permission.Respelled
      [.str "Doc.Write.__INTERNAL::[DEFAULT]__.old", .int 7] [.str "Doc.Write", .int 7] :=
    .cons (.canonical (p := ⟨"Doc", .write, defaultResource⟩) rfl) (.cons .same .nil)
  refine ⟨⟨bare, omitted, distinct _ _ _ _ bare omitted⟩,
    sources _ _ (.cons respelled_keyedRole (.cons editor .nil)),
    listed [] [] wordyWriterData _ _ rfl writer, longer, readBack _ _ longer, ?_⟩
  exact (questions _ _ _ longer).1 _

end AccessControl
