import AccessControl.Proofs.Compile.Tolerance
import Mathlib.Data.Finset.Card

/-!
# The log accounts for every entry

`compileLogging` goes through the sources once and hands every event to a logger as it comes up:
first all sources are loaded, then their entries are read one by one into a `Ledger`, which has the
index so far and counts the entries read and the entries passed over. What it comes to:

* `foldl_loadNote`, `Ledger.foldl_note`: what a run of either loop adds, by induction from what one
  step does, whatever the logger makes of the events;
* `compileLogging_eq`: the index is the compiled one, and the logger has seen the events of loading
  and compiling in their order;
* `loadEvents_data`, `compileEvents_eq`, `Index.size_ofRoles`: the events name the dropped values with
  what is wrong with them, then the rejected entries in reading order, and the summary tells how many
  entries, keys and rejected entries there are;
* `Ledger.Balanced`: every entry read is passed over or makes for one key at most.
-/
namespace AccessControl

structure Reading where
  role : Role
  value : Json

namespace Reading

def isRejected (x : Reading) : Bool := (Permission.read? x.value).isNone

def entry? (x : Reading) : Option Entry := (Permission.read? x.value).map (Entry.mk x.role.context)

def key? (x : Reading) : Option BlockKey :=
  (Permission.read? x.value).map fun p => ⟨x.role.context, p.scope⟩

def skipped (x : Reading) : CompileEvent := .entrySkipped x.value x.role.id

end Reading

namespace Role

def readings (roles : List Role) : List Reading :=
  roles.flatMap fun r => r.permissions.map (Reading.mk r)

def rejected (roles : List Role) : List Reading :=
  (readings roles).filter Reading.isRejected

/-- The values that are not loaded, each with the error that is raised for it. -/
def dropped (values : List Json) : List (Json × RoleError) :=
  values.filterMap fun value =>
    match ofJson value with
    | .ok _ => none
    | .error e => some (value, e)

/-- The contexts and scopes that the other entries of roles are for. -/
def acceptedKeys (roles : List Role) : Finset BlockKey :=
  ((readings roles).filterMap Reading.key?).toFinset

theorem allEntries_eq (roles : List Role) :
    allEntries roles = (readings roles).filterMap Reading.entry? := by
  rw [allEntries, readings, List.filterMap_flatMap]
  exact List.flatMap_congr fun r _ => by rw [entries, List.filterMap_map]; rfl

theorem length_readings (roles : List Role) :
    (readings roles).length = (roles.flatMap (·.permissions)).length := by
  simp [readings, List.length_flatMap]

/-- What is dropped is what is no data of a role. -/
theorem map_dropped (values : List Json) :
    (dropped values).map Prod.fst = values.filter fun value => ¬ IsLoadable value := by
  rw [dropped, List.map_filterMap, ← List.filterMap_eq_filter]
  apply List.filterMap_congr
  intro value _
  cases loads : ofJson value with
  | ok r =>
    have good : IsLoadable value := (exists_ofJson_iff value).mp ⟨r, loads⟩
    simp [Option.guard, good]
  | error e =>
    have bad := not_isLoadable_of_error loads
    simp [Option.guard, bad]

/-- What goes with a dropped value is what is wrong with it. -/
theorem refused_of_mem_dropped {values : List Json} {value : Json} {e : RoleError}
    (listed : (value, e) ∈ dropped values) : Refused value e := by
  obtain ⟨value', -, shown⟩ := List.mem_filterMap.mp listed
  rw [← ofJson_eq_error_iff]
  cases loads : ofJson value' with
  | ok r => simp [loads] at shown
  | error e' =>
    simp only [loads, Option.some.injEq, Prod.mk.injEq] at shown
    obtain ⟨rfl, rfl⟩ := shown
    exact loads

theorem rejected_eq (roles : List Role) :
    rejected roles = roles.flatMap fun r => r.skippedEntries.map (Reading.mk r) := by
  rw [rejected, readings, List.filter_flatMap]
  exact List.flatMap_congr fun r _ => by rw [skippedEntries, List.filter_map]; rfl

end Role

/-- The events of compiling: the rejected entries in reading order, then how many entries, blocks and
rejected entries there are. -/
theorem compileEvents_eq (roles : List Role) :
    compileEvents roles = (Role.rejected roles).map Reading.skipped ++
      [.finished (Role.readings roles).length (Index.ofRoles roles).size
        (Role.rejected roles).length] := by
  have events : (Role.rejected roles).map Reading.skipped =
      roles.flatMap fun r => r.skippedEntries.map (.entrySkipped · r.id) := by
    rw [Role.rejected_eq, List.map_flatMap]
    exact List.flatMap_congr fun r _ => by rw [List.map_map]; rfl
  have count : (Role.rejected roles).length = (roles.flatMap Role.skippedEntries).length := by
    simp [Role.rejected_eq, List.length_flatMap]
  rw [compileEvents, events, count, Role.length_readings]

/-- The events of loading: the values that are dropped, in their order. -/
theorem loadEvents_data (values : List Json) :
    loadEvents (values.map .data) =
      (Role.dropped values).map fun x => .roleSkipped x.1 x.2 := by
  rw [loadEvents, Role.dropped, List.filterMap_map, List.map_filterMap]
  apply List.filterMap_congr
  intro value _
  dsimp only [Function.comp_apply]
  cases Role.ofJson value <;> rfl

namespace Index

theorem length_keys (i : Index) : i.keys.length = i.size :=
  List.length_map _

theorem size_grant_le (i : Index) (e : Entry) : (i.grant e).size ≤ i.size + 1 := by
  rw [← length_keys, ← length_keys, keys_grant]
  split <;> simp

/-- There are as many blocks as there are different contexts and scopes to entries that can be
read. -/
theorem size_ofRoles (roles : List Role) : (ofRoles roles).size = (Role.acceptedKeys roles).card := by
  have same : (ofRoles roles).keys.toFinset = Role.acceptedKeys roles := by
    rw [Role.acceptedKeys, ofRoles, keys_ofEntries, Role.allEntries_eq, List.map_filterMap]
    ext key
    simp only [List.mem_toFinset, List.mem_eraseDups]
    have each : (fun x : Reading => x.entry?.map Entry.key) = Reading.key? := by
      funext x
      rw [Reading.entry?, Option.map_map]
      rfl
    rw [each]
  have distinct : (ofRoles roles).keys.Nodup := (ofRoles roles).nodup
  rw [← same, List.toFinset_card_of_nodup distinct, length_keys]

end Index

/-- What reading entries comes to: the index so far, the number of entries read and of those passed
over, and what the logger has made of the events. -/
structure Ledger (σ : Type) where
  index : Index
  total : Nat
  skipped : Nat
  logged : σ

variable {σ : Type} (log : σ → CompileEvent → σ)

namespace Ledger

/-- One more entry is read: it is passed over and logged, or granted. -/
def note (l : Ledger σ) (x : Reading) : Ledger σ :=
  match Permission.read? x.value with
  | none =>
    { l with total := l.total + 1, skipped := l.skipped + 1, logged := log l.logged x.skipped }
  | some p => { l with total := l.total + 1, index := l.index.grant ⟨x.role.context, p⟩ }

def noteRole (l : Ledger σ) (r : Role) : Ledger σ :=
  r.permissions.foldl (fun l value => l.note log ⟨r, value⟩) l

/-- Every entry read is passed over or makes for one block at most. -/
def Balanced (l : Ledger σ) : Prop :=
  l.index.size + l.skipped ≤ l.total

theorem foldl_noteRole (roles : List Role) (l : Ledger σ) :
    roles.foldl (noteRole log) l = (Role.readings roles).foldl (note log) l := by
  induction roles generalizing l with
  | nil => rfl
  | cons r rest ih =>
    rw [List.foldl_cons, ih, Role.readings, Role.readings, List.flatMap_cons, List.foldl_append,
      List.foldl_map]
    rfl

/-- Run: entries that are read are all counted; those that cannot be read are counted as passed over
and handed to the logger, and the others are granted. -/
theorem foldl_note (xs : List Reading) (l : Ledger σ) :
    xs.foldl (note log) l =
      { index := (xs.filterMap Reading.entry?).foldl Index.grant l.index
        total := l.total + xs.length
        skipped := l.skipped + (xs.filter Reading.isRejected).length
        logged := ((xs.filter Reading.isRejected).map Reading.skipped).foldl log l.logged } := by
  induction xs generalizing l with
  | nil => rfl
  | cons x rest ih =>
    rw [List.foldl_cons, ih]
    cases read : Permission.read? x.value with
    | none =>
      have rejected : x.isRejected = true := by rw [Reading.isRejected, read]; rfl
      have ungranted : x.entry? = none := by rw [Reading.entry?, read]; rfl
      simp only [note, read, List.filterMap_cons_none ungranted, List.filter_cons_of_pos rejected,
        List.map_cons, List.foldl_cons, List.length_cons, Nat.add_assoc, Nat.add_comm 1]
    | some p =>
      have accepted : ¬ x.isRejected = true := by rw [Reading.isRejected, read]; simp
      have granted : x.entry? = some ⟨x.role.context, p⟩ := by rw [Reading.entry?, read]; rfl
      simp only [note, read, List.filterMap_cons_some granted, List.filter_cons_of_neg accepted,
        List.foldl_cons, List.length_cons, Nat.add_assoc, Nat.add_comm 1]

/-- Step: one more entry keeps the balance. -/
theorem Balanced.note {l : Ledger σ} (balanced : l.Balanced) (x : Reading) :
    (l.note log x).Balanced := by
  unfold Balanced at balanced ⊢
  cases read : Permission.read? x.value with
  | none =>
    simp only [Ledger.note, read]
    omega
  | some p =>
    have grows := l.index.size_grant_le ⟨x.role.context, p⟩
    simp only [Ledger.note, read]
    omega

/-- Run: so do any number of them. -/
theorem Balanced.foldl {l : Ledger σ} (balanced : l.Balanced) (xs : List Reading) :
    (xs.foldl (Ledger.note log) l).Balanced := by
  induction xs generalizing l with
  | nil => exact balanced
  | cons x rest ih => exact ih (balanced.note log x)

end Ledger

/-- One more source is loaded: the role is kept, or the value is passed over and logged. -/
def loadNote (s : List Role × σ) : RoleSource → List Role × σ
  | .loaded r => (s.1 ++ [r], s.2)
  | .data value =>
    match Role.ofJson value with
    | .ok r => (s.1 ++ [r], s.2)
    | .error e => (s.1, log s.2 (.roleSkipped value e))

/-- Run: the roles that can be loaded are kept in order, and the logger is handed the others. -/
theorem foldl_loadNote (sources : List RoleSource) (s : List Role × σ) :
    sources.foldl (loadNote log) s =
      (s.1 ++ Role.load sources, (loadEvents sources).foldl log s.2) := by
  induction sources generalizing s with
  | nil => simp [Role.load, loadEvents]
  | cons source rest ih =>
    rw [List.foldl_cons, ih]
    cases source with
    | loaded r => simp [loadNote, Role.load, RoleSource.role?, loadEvents]
    | data value =>
      cases loads : Role.ofJson value <;>
        simp [loadNote, loads, Role.load, RoleSource.role?, loadEvents, Except.toOption]

/-- The index of sources and what a logger makes of the events, which it is handed one by one: all
sources are loaded before the first entry is read, and the summary is made at the end. -/
def compileLogging (s : σ) (sources : List RoleSource) : Index × σ :=
  let loaded := sources.foldl (loadNote log) ([], s)
  let l := loaded.1.foldl (Ledger.noteRole log) ⟨.empty, 0, 0, loaded.2⟩
  (l.index, log l.logged (.finished l.total l.index.size l.skipped))

/-- The index is the compiled one, whatever is logged, and the logger has seen the events of loading
and of compiling. -/
theorem compileLogging_eq (s : σ) (sources : List RoleSource) :
    compileLogging log s sources =
      (Index.compile sources,
        (loadEvents sources ++ compileEvents (Role.load sources)).foldl log s) := by
  have index : ((Role.readings (Role.load sources)).filterMap Reading.entry?).foldl Index.grant
      .empty = Index.compile sources := by
    rw [← Role.allEntries_eq]
    rfl
  simp only [compileLogging, foldl_loadNote, List.nil_append, Ledger.foldl_noteRole,
    Ledger.foldl_note, index, compileEvents_eq, List.foldl_append, List.foldl_cons, List.foldl_nil,
    Nat.zero_add]
  rfl

def CompileEvent.isAboutEntry : CompileEvent → Bool
  | .entrySkipped .. => true
  | _ => false

theorem countP_isAboutEntry (dropped : List (Json × RoleError)) (rejected : List Reading)
    (total blocks skipped : Nat) :
    (dropped.map (fun x => CompileEvent.roleSkipped x.1 x.2) ++ rejected.map Reading.skipped ++
      [CompileEvent.finished total blocks skipped]).countP CompileEvent.isAboutEntry =
        rejected.length := by
  have warnings : (dropped.map fun x => CompileEvent.roleSkipped x.1 x.2).countP
      CompileEvent.isAboutEntry = 0 := by
    simp [List.countP_eq_zero, CompileEvent.isAboutEntry]
  have skips : (rejected.map Reading.skipped).countP CompileEvent.isAboutEntry =
      rejected.length := by
    rw [List.countP_eq_length.mpr, List.length_map]
    simp [Reading.skipped, CompileEvent.isAboutEntry]
  rw [List.countP_append, List.countP_append, warnings, skips]
  simp [CompileEvent.isAboutEntry]

/-- No entry goes missing: every entry read is rejected or makes for one block at most. -/
theorem Index.size_add_rejected_le (roles : List Role) :
    (ofRoles roles).size + (Role.rejected roles).length ≤ (Role.readings roles).length := by
  have start : (⟨.empty, 0, 0, ()⟩ : Ledger Unit).Balanced := Nat.le_refl 0
  have balanced := start.foldl (fun _ _ => ()) (Role.readings roles)
  rw [Ledger.foldl_note, Ledger.Balanced, ← Role.allEntries_eq] at balanced
  simp only [Nat.zero_add] at balanced
  exact balanced

/-- Compiling data of roles logs an account of every entry. The logger sees one warning for each
value that is no data of a role, in their order, with the value and what is wrong with it; then one
debug record for each entry of the loaded roles that cannot be read, in reading order, with the entry
and its role's identifier; then one debug record with the number of entries, of contexts and scopes
that the readable ones are for, which is the size of the index, and of rejected entries. Every entry
is rejected or makes for one block at most. The index is the compiled one whatever the logger does. -/
theorem Index.log_accounts_for_entries (values : List Json) :
    let sources := values.map RoleSource.data
    let roles := Role.load sources
    let events := loadEvents sources ++ compileEvents roles
    (∀ (σ : Type) (log : σ → CompileEvent → σ) (s : σ),
      compileLogging log s sources = (compile sources, events.foldl log s)) ∧
    List.Forall₂ (fun value r => Role.ofJson value = .ok r)
      (values.filter fun value => Role.IsLoadable value) roles ∧
    ((Role.dropped values).map Prod.fst = values.filter fun value => ¬ Role.IsLoadable value) ∧
    (∀ value e, (value, e) ∈ Role.dropped values → Role.Refused value e) ∧
    events = ((Role.dropped values).map fun x => .roleSkipped x.1 x.2) ++
      (Role.rejected roles).map Reading.skipped ++
      [.finished (Role.readings roles).length (Role.acceptedKeys roles).card
        (Role.rejected roles).length] ∧
    events.map CompileEvent.record =
      ((Role.dropped values).map fun x =>
        ⟨.warning, "Skipping invalid role " ++ x.1.display ++ ": " ++ x.2.display⟩) ++
      ((Role.rejected roles).map fun x => ⟨.debug, "Skipping invalid permission " ++
        x.value.display ++ " in role " ++ x.role.id.plain⟩) ++
      [⟨.debug, "Compiled " ++ (Role.readings roles).length.repr ++ " permission strings into " ++
        (Role.acceptedKeys roles).card.repr ++ " blocks (" ++ (Role.rejected roles).length.repr ++
        " skipped)"⟩] ∧
    (compile sources).size = (Role.acceptedKeys roles).card ∧
    events.countP CompileEvent.isAboutEntry = (Role.rejected roles).length ∧
    (compile sources).size + (Role.rejected roles).length ≤ (Role.readings roles).length := by
  intro sources roles events
  have shown : events = ((Role.dropped values).map fun x => .roleSkipped x.1 x.2) ++
      (Role.rejected roles).map Reading.skipped ++
      [.finished (Role.readings roles).length (Role.acceptedKeys roles).card
        (Role.rejected roles).length] := by
    dsimp only [events, sources]
    rw [loadEvents_data, compileEvents_eq, size_ofRoles, List.append_assoc]
  refine ⟨fun _ log s => compileLogging_eq log s sources, Role.load_data values,
    Role.map_dropped values, fun _ _ => Role.refused_of_mem_dropped, shown, ?_,
    size_ofRoles roles, ?_, size_add_rejected_le roles⟩
  · rw [shown, List.map_append, List.map_append, List.map_map, List.map_map]
    rfl
  · rw [shown]
    exact countP_isAboutEntry _ _ _ _ _

/-- Both entries that can be read are for the same context and scope. -/
example :
    (compileLogging (fun seen e => seen ++ [e.record]) [] [.data .null,
      .data (.obj (Json.assign writerData "permissions"
        (.arr [.str "Doc.Read", .str "Fly", .str "Doc.Write.a"])))]).2 =
    [⟨.warning, "Skipping invalid role None: TypeError(\"'NoneType' object is not subscriptable\")"⟩,
      ⟨.debug, "Skipping invalid permission 'Fly' in role writer"⟩,
      ⟨.debug, "Compiled 3 permission strings into 1 blocks (1 skipped)"⟩] := by decide

end AccessControl
