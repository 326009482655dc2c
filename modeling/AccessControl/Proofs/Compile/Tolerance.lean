import AccessControl.Proofs.Compile.Isolation
import AccessControl.Proofs.Json.RoundTrip

/-!
# Bad role data costs nothing

Roles that cannot be loaded and entries that cannot be read are passed over, and what is left is
compiled as if they had never been there.

* `Role.IsLoadable` says of a value, without loading it, that it is the data of a role;
  `exists_ofJson_iff` and `load_data` show that such values are loaded and no others;
* `Role.Refused` says of any other value what is wrong with it, which is what loading reports
  (`ofJson_eq_error_iff`);
* `Permission.Padded` and `Littered` say where refuse may lie: between the entries of a role and
  between the sources; a role's entries and a list's entries stay the same (`entries_of_padded`,
  `Littered.allEntries_eq`), and with them the index;
* a text in place of the entries is one entry for each of its characters, which are all too short
  (`entries_of_text`);
* what is loaded loads again as it is (`Role.load_loaded`).
-/
namespace AccessControl

namespace Role

/-- What may stand in the place of the entries: nothing, a value that counts as nothing, or a value
that yields others. -/
inductive EntriesForm : Option Json → Prop
  | absent : EntriesForm none
  | vacant {value : Json} (nothing : value.isVacant = true) : EntriesForm (some value)
  | text (s : String) : EntriesForm (some (.str s))
  | list (items : List Json) : EntriesForm (some (.arr items))
  | object (members : List (String × Json)) : EntriesForm (some (.obj members))

/-- The value is an object with an identifier, a context by its word, and what may stand in the place
of the entries. -/
def IsLoadable : Json → Prop
  | .obj members =>
    (members.lookup "id").isSome = true ∧
      (members.lookup "context" = some (.str "local") ∨
        members.lookup "context" = some (.str "global")) ∧
      EntriesForm (members.lookup "permissions")
  | _ => False

def entriesOf (given : Option Json) : Option (List Json) :=
  (if (given.getD .null).isVacant then Json.arr [] else given.getD .null).elements?

theorem entriesForm_iff (given : Option Json) :
    EntriesForm given ↔ (entriesOf given).isSome = true := by
  constructor
  · intro form
    cases form with
    | absent => rfl
    | vacant nothing =>
      rw [entriesOf, Option.getD_some, if_pos nothing]
      rfl
    | text | list | object =>
      rw [entriesOf, Option.getD_some]
      split <;> rfl
  · intro given_isSome
    cases given with
    | none => exact .absent
    | some value =>
      by_cases nothing : value.isVacant = true
      · exact .vacant nothing
      · rw [entriesOf, Option.getD_some, if_neg nothing] at given_isSome
        cases value with
        | str s => exact .text s
        | arr items => exact .list items
        | obj members => exact .object members
        | _ => cases given_isSome

theorem readContext_eq_ok_iff (value : Json) (c : Context) :
    readWord .contexts Context.ofText? value = .ok c ↔ value = .str c.text := by
  simp [readWord_eq_ok_iff, Context.ofText?_eq_some_iff]

theorem build_eq_ok_iff (id name context permissions description : Json) (r : Role) :
    build id name context permissions description = .ok r ↔
      id = r.id ∧ name = r.name ∧ context = .str r.context.text ∧
        permissions.elements? = some r.permissions ∧ description = r.description := by
  unfold build
  cases read : readWord .contexts Context.ofText? context with
  | error e =>
    have other : context ≠ .str r.context.text := fun same =>
      nomatch read.symm.trans ((readContext_eq_ok_iff context r.context).mpr same)
    simp [other]
  | ok c =>
    have same : context = .str r.context.text ↔ c = r.context := by
      rw [← readContext_eq_ok_iff, read, Except.ok.injEq]
    cases permissions.elements? with
    | none => simp
    | some items =>
      simp only [same, Except.ok.injEq, Option.some.injEq]
      constructor
      · rintro rfl
        exact ⟨rfl, rfl, rfl, rfl, rfl⟩
      · rintro ⟨rfl, rfl, rfl, rfl, rfl⟩
        rfl

/-- What loading takes from an object: its identifier, context and entries, and the rest as it is. -/
theorem ofJson_eq_ok_iff (members : List (String × Json)) (r : Role) :
    ofJson (.obj members) = .ok r ↔
      members.lookup "id" = some r.id ∧ members.lookup "context" = some (.str r.context.text) ∧
      entriesOf (members.lookup "permissions") = some r.permissions ∧
      r.name = (members.lookup "name").getD r.id ∧
      r.description = (members.lookup "description").getD .null := by
  cases identified : members.lookup "id" with
  | none => simp only [ofJson, identified, reduceCtorEq, false_and]
  | some id =>
    cases placed : members.lookup "context" with
    | none => simp only [ofJson, identified, placed, reduceCtorEq, false_and, and_false]
    | some context =>
      simp only [ofJson, identified, placed, build_eq_ok_iff, Option.some.injEq, entriesOf]
      constructor
      · rintro ⟨rfl, name, context, permissions, description⟩
        exact ⟨rfl, context, permissions, name.symm, description.symm⟩
      · rintro ⟨rfl, context, permissions, name, description⟩
        exact ⟨rfl, name.symm, context, permissions, description.symm⟩

theorem exists_ofJson_iff (value : Json) : (∃ r, ofJson value = .ok r) ↔ IsLoadable value := by
  cases value with
  | obj members =>
    simp only [ofJson_eq_ok_iff, IsLoadable, entriesForm_iff, Option.isSome_iff_exists]
    constructor
    · rintro ⟨r, id, context, entries, -, -⟩
      refine ⟨⟨_, id⟩, ?_, _, entries⟩
      cases named : r.context with
      | «local» =>
        rw [named] at context
        exact Or.inl context
      | global =>
        rw [named] at context
        exact Or.inr context
    · rintro ⟨⟨id, identified⟩, placed, permissions, entries⟩
      obtain ⟨context, placed⟩ : ∃ c : Context, members.lookup "context" = some (.str c.text) := by
        obtain placed | placed := placed
        · exact ⟨.local, placed⟩
        · exact ⟨.global, placed⟩
      exact ⟨⟨id, (members.lookup "name").getD id, context, permissions,
        (members.lookup "description").getD .null⟩, identified, placed, entries, rfl, rfl⟩
  | _ => simp [ofJson, IsLoadable]

/-- What is wrong with a value that is no data of a role. The first thing that is wrong counts: the
identifier comes first, then whether a context is given, which one it is, and the entries. -/
inductive Refused : Json → RoleError → Prop
  | notObject {value : Json} (other : ∀ members, value ≠ .obj members) :
    Refused value (.notObject value)
  | unidentified {members : List (String × Json)} (missing : members.lookup "id" = none) :
    Refused (.obj members) (.missingKey "id")
  | unplaced {members : List (String × Json)} {id : Json} (identified : members.lookup "id" = some id)
    (missing : members.lookup "context" = none) : Refused (.obj members) (.missingKey "context")
  | misplaced {members : List (String × Json)} {id context : Json}
    (identified : members.lookup "id" = some id) (placed : members.lookup "context" = some context)
    (unknown : ∀ c : Context, context ≠ .str c.text) :
    Refused (.obj members) (.unknownContext ⟨.contexts, context⟩)
  | unreadable {members : List (String × Json)} {id permissions : Json} {c : Context}
    (identified : members.lookup "id" = some id)
    (placed : members.lookup "context" = some (.str c.text))
    (given : members.lookup "permissions" = some permissions)
    (other : ¬ EntriesForm (some permissions)) : Refused (.obj members) (.permissions permissions)

theorem readContext_eq_error_iff (value : Json) (e : UnknownWord) :
    readWord .contexts Context.ofText? value = .error e ↔
      (∀ c : Context, value ≠ .str c.text) ∧ e = ⟨.contexts, value⟩ := by
  rw [readWord_eq_error_iff]
  refine and_congr_left fun _ => ⟨fun unknown c spelled => ?_, fun unknown word spelled => ?_⟩
  · cases (Context.ofText?_eq_some_iff.mpr rfl).symm.trans (unknown c.text spelled)
  · rw [Option.eq_none_iff_forall_ne_some]
    intro c named
    exact unknown c (by rw [spelled, Context.ofText?_eq_some_iff.mp named])

/-- The context is looked at before the entries. -/
theorem build_eq_error_iff (id name context permissions description : Json) (e : RoleError) :
    build id name context permissions description = .error e ↔
      ((∀ c : Context, context ≠ .str c.text) ∧ e = .unknownContext ⟨.contexts, context⟩) ∨
        ∃ c : Context, context = .str c.text ∧ permissions.elements? = none ∧
          e = .permissions permissions := by
  unfold build
  cases read : readWord .contexts Context.ofText? context with
  | error e' =>
    obtain ⟨unknown, rfl⟩ := (readContext_eq_error_iff context e').mp read
    simp [unknown, eq_comm]
  | ok c =>
    have known := (readContext_eq_ok_iff context c).mp read
    subst known
    cases yields : permissions.elements? <;> simp [eq_comm]

theorem entriesOf_eq_none_iff (given : Option Json) :
    entriesOf given = none ↔ ¬ EntriesForm given := by
  rw [entriesForm_iff, Option.not_isSome_iff_eq_none]

/-- What is no form of entries is there, counts for something and yields no values. -/
theorem not_entriesForm_iff (given : Option Json) :
    ¬ EntriesForm given ↔
      ∃ value, given = some value ∧ value.isVacant = false ∧ value.elements? = none := by
  rw [← entriesOf_eq_none_iff, entriesOf]
  cases given with
  | none => simp [Json.isVacant, Json.elements?]
  | some value => cases counts : value.isVacant <;> simp [counts, Json.elements?]

/-- Loading reports what is wrong with a value. -/
theorem ofJson_eq_error_iff (value : Json) (e : RoleError) :
    ofJson value = .error e ↔ Refused value e := by
  constructor
  · intro fails
    cases value with
    | obj members =>
      cases identified : members.lookup "id" with
      | none =>
        simp only [ofJson, identified, Except.error.injEq] at fails
        exact fails ▸ .unidentified identified
      | some id =>
        cases placed : members.lookup "context" with
        | none =>
          simp only [ofJson, identified, placed, Except.error.injEq] at fails
          exact fails ▸ .unplaced identified placed
        | some context =>
          simp only [ofJson, identified, placed, build_eq_error_iff] at fails
          obtain ⟨unknown, rfl⟩ | ⟨c, rfl, refuses, rfl⟩ := fails
          · exact .misplaced identified placed unknown
          · have other := (entriesOf_eq_none_iff (members.lookup "permissions")).mp refuses
            obtain ⟨permissions, given, counts, -⟩ := (not_entriesForm_iff _).mp other
            rw [given] at other
            simp only [given, Option.getD_some, counts]
            exact .unreadable identified placed given other
    | _ =>
      rw [← Except.error.inj fails]
      exact .notObject (by simp)
  · intro refused
    cases refused with
    | notObject other =>
      cases value with
      | obj members => exact absurd rfl (other members)
      | _ => rfl
    | unidentified missing => simp only [ofJson, missing]
    | unplaced identified missing => simp only [ofJson, identified, missing]
    | misplaced identified placed unknown =>
      simp only [ofJson, identified, placed]
      rw [build_eq_error_iff]
      exact Or.inl ⟨unknown, rfl⟩
    | @unreadable _ _ permissions c identified placed given other =>
      obtain ⟨_, same, counts, yields⟩ := (not_entriesForm_iff _).mp other
      cases same
      simp only [ofJson, identified, placed, given, Option.getD_some, counts]
      rw [build_eq_error_iff]
      exact Or.inr ⟨c, rfl, yields, rfl⟩

instance (value : Json) : Decidable (IsLoadable value) :=
  decidable_of_iff ((RoleSource.data value).role?.isSome = true) <| by
    rw [← exists_ofJson_iff, RoleSource.role?]
    cases ofJson value <;> simp [Except.toOption]

theorem not_isLoadable_of_error {value : Json} {e : RoleError} (fails : ofJson value = .error e) :
    ¬ IsLoadable value := by
  intro good
  obtain ⟨r, loads⟩ := (exists_ofJson_iff value).mpr good
  cases fails.symm.trans loads

theorem role?_data_eq_none {value : Json} (bad : ¬ IsLoadable value) :
    (RoleSource.data value).role? = none := by
  rw [RoleSource.role?]
  cases loads : ofJson value with
  | error e => rfl
  | ok r => exact absurd ((exists_ofJson_iff value).mp ⟨r, loads⟩) bad

/-- The values that are data of roles are loaded one by one, in their order. -/
theorem load_data (values : List Json) :
    List.Forall₂ (fun value r => ofJson value = .ok r) (values.filter fun value => IsLoadable value)
      (load (values.map .data)) := by
  induction values with
  | nil => exact .nil
  | cons value rest ih =>
    by_cases good : IsLoadable value
    · obtain ⟨r, loads⟩ := (exists_ofJson_iff value).mpr good
      rw [List.filter_cons_of_pos (by simpa using good), load, List.map_cons,
        List.filterMap_cons_some (RoleSource.role?_data loads)]
      exact .cons loads ih
    · rw [List.filter_cons_of_neg (by simpa using good), load, List.map_cons,
        List.filterMap_cons_none (role?_data_eq_none good)]
      exact ih

end Role

namespace Permission

/-- The second list is the first with refused entries put in anywhere. -/
inductive Padded : List Json → List Json → Prop
  | nil : Padded [] []
  | entry {values more : List Json} (value : Json) (h : Padded values more) :
    Padded (value :: values) (value :: more)
  | refused {values more : List Json} {value : Json} (unread : read? value = none)
    (h : Padded values more) : Padded values (value :: more)

theorem length_cut_le (cs : List Char) :
    (cut cs).1.length ≤ cs.length ∧ ∀ rest, (cut cs).2 = some rest → rest.length < cs.length := by
  have parts := congrArg List.length
    (List.takeWhile_append_dropWhile (p := fun c => decide (c ≠ separator)) (l := cs))
  rw [List.length_append] at parts
  unfold cut
  split
  · exact ⟨le_refl _, fun _ absent => nomatch absent⟩
  · rename_i c rest dropped
    rw [dropped, List.length_cons] at parts
    refine ⟨by dsimp only; omega, fun behind same => ?_⟩
    cases same
    omega

/-- An entry that is accepted names an action, so it is longer than two characters. -/
theorem read?_short {cs : List Char} (short : cs.length ≤ 2) :
    read? (.str (String.ofList cs)) = none := by
  have brief : (segments (String.ofList cs)).action.toList.length ≤ 2 := by
    unfold segments
    dsimp only
    rw [String.toList_ofList]
    split
    · simp
    · rename_i rest cutOff
      have first := (length_cut_le cs).2 rest cutOff
      have second := (length_cut_le rest).1
      split <;> (rw [String.toList_ofList]; omega)
  have unknown : Action.ofText? (segments (String.ofList cs)).action = none := by
    have unlike : ∀ word : String, 2 < word.toList.length →
        (segments (String.ofList cs)).action ≠ word := fun word long same => by
      rw [same] at brief
      omega
    rw [Action.ofText?, if_neg (unlike "Read" (by decide)), if_neg (unlike "Write" (by decide)),
      if_neg (unlike "ReadWrite" (by decide))]
  simp only [read?, unknown]

theorem read?_letter {s : String} {cs : List Char} (letter : cs ∈ Text.letters s.toList) :
    read? (.str (String.ofList cs)) = none := by
  obtain ⟨n, -, rfl⟩ := List.mem_map.mp letter
  apply read?_short
  unfold Text.spelled
  split_ifs <;> simp

end Permission

/-- Refused entries are passed over, whatever is made of the others. -/
theorem Permission.Padded.filterMap_eq {values more : List Json} (padded : Padded values more)
    (f : Permission → Entry) :
    more.filterMap (fun value => (read? value).map f) =
      values.filterMap fun value => (read? value).map f := by
  induction padded with
  | nil => rfl
  | entry value _ ih => rw [List.filterMap_cons, List.filterMap_cons, ih]
  | refused unread _ ih =>
    rw [List.filterMap_cons, unread, Option.map_none]
    exact ih

/-- Refused entries add nothing to what a role grants. -/
theorem Role.entries_of_padded {r s : Role} (context : s.context = r.context)
    (padded : Permission.Padded r.permissions s.permissions) : s.entries = r.entries := by
  unfold Role.entries
  rw [context]
  exact padded.filterMap_eq _

/-- A role with a text in place of its entries has none that is accepted. -/
theorem Role.entries_of_text {members : List (String × Json)} {r : Role} {s : String}
    (loads : Role.ofJson (.obj members) = .ok r)
    (text : members.lookup "permissions" = some (.str s)) : r.entries = [] := by
  obtain ⟨-, -, entries, -, -⟩ := (Role.ofJson_eq_ok_iff members r).mp loads
  rw [text, Role.entriesOf, Option.getD_some] at entries
  rw [Role.entries, List.filterMap_eq_nil_iff]
  intro value listed
  split at entries
  · rw [← Option.some.inj entries] at listed
    cases listed
  · rw [← Option.some.inj entries] at listed
    obtain ⟨cs, letter, rfl⟩ := List.mem_map.mp listed
    rw [Permission.read?_letter letter, Option.map_none]

/-- A list in the place of the entries is taken as it stands. -/
theorem Role.entriesOf_list (items : List Json) : Role.entriesOf (some (.arr items)) = some items := by
  cases items <;> rfl

/-- The entries of a role's data may be written anew without changing anything else. -/
theorem Role.ofJson_assign {members : List (String × Json)} {r : Role}
    (loads : Role.ofJson (.obj members) = .ok r) (items : List Json) :
    Role.ofJson (.obj (Json.assign members "permissions" (.arr items))) =
      .ok { r with permissions := items } := by
  obtain ⟨id, context, -, name, description⟩ := (Role.ofJson_eq_ok_iff members r).mp loads
  rw [Role.ofJson_eq_ok_iff, Json.lookup_assign_self, Json.lookup_assign_of_ne (by decide),
    Json.lookup_assign_of_ne (by decide), Json.lookup_assign_of_ne (by decide),
    Json.lookup_assign_of_ne (by decide)]
  exact ⟨id, context, Role.entriesOf_list items, name, description⟩

/-- Entries that may be written anew do not make a role of what is none. -/
theorem Role.ofJson_assign_of_error {members : List (String × Json)} {e : RoleError}
    (fails : Role.ofJson (.obj members) = .error e) {items : List Json}
    (listed : members.lookup "permissions" = some (.arr items)) (more : List Json) :
    ∃ e', Role.ofJson (.obj (Json.assign members "permissions" (.arr more))) = .error e' := by
  cases loads : Role.ofJson (.obj (Json.assign members "permissions" (.arr more))) with
  | error e' => exact ⟨e', rfl⟩
  | ok r =>
    obtain ⟨id, context, -, name, description⟩ := (Role.ofJson_eq_ok_iff _ r).mp loads
    rw [Json.lookup_assign_of_ne (by decide)] at id context name description
    have entries : Role.entriesOf (members.lookup "permissions") = some items := by
      rw [listed, Role.entriesOf_list]
    have good : Role.ofJson (.obj members) = .ok { r with permissions := items } :=
      (Role.ofJson_eq_ok_iff members _).mpr ⟨id, context, entries, name, description⟩
    cases fails.symm.trans good

/-- The second list is the first with refuse put in: values that are no data of roles, and refused
entries in the roles. -/
inductive Littered : List RoleSource → List RoleSource → Prop
  | nil : Littered [] []
  | source {sources more : List RoleSource} (source : RoleSource) (h : Littered sources more) :
    Littered (source :: sources) (source :: more)
  | unloadable {sources more : List RoleSource} {value : Json} (bad : ¬ Role.IsLoadable value)
    (h : Littered sources more) : Littered sources (.data value :: more)
  | entries {sources more : List RoleSource} {first second : RoleSource} {r s : Role}
    (loads : first.role? = some r) (others : second.role? = some s) (context : s.context = r.context)
    (padded : Permission.Padded r.permissions s.permissions) (h : Littered sources more) :
    Littered (first :: sources) (second :: more)

theorem Littered.refl (sources : List RoleSource) : Littered sources sources := by
  induction sources with
  | nil => exact .nil
  | cons source rest ih => exact .source source ih

theorem Littered.append_left {sources more : List RoleSource} (h : Littered sources more)
    (before : List RoleSource) : Littered (before ++ sources) (before ++ more) := by
  induction before with
  | nil => exact h
  | cons source rest ih => exact .source source ih

/-- Refuse adds no entries: one case for each way to put it in. -/
theorem Littered.allEntries_eq {sources more : List RoleSource} (h : Littered sources more) :
    Role.allEntries (Role.load more) = Role.allEntries (Role.load sources) := by
  unfold Role.load Role.allEntries
  induction h with
  | nil => rfl
  | source source _ ih =>
    rw [List.filterMap_cons, List.filterMap_cons]
    cases source.role? with
    | none => exact ih
    | some r => rw [List.flatMap_cons, List.flatMap_cons, ih]
  | unloadable bad _ ih => rwa [List.filterMap_cons_none (Role.role?_data_eq_none bad)]
  | entries loads others context padded _ ih =>
    rw [List.filterMap_cons_some loads, List.filterMap_cons_some others, List.flatMap_cons,
      List.flatMap_cons, ih, Role.entries_of_padded context padded]

namespace Index

theorem compile_of_littered {sources more : List RoleSource} (h : Littered sources more) :
    compile more = compile sources :=
  congrArg ofEntries h.allEntries_eq

/-- A value that is not loaded may as well be left out. -/
theorem compile_of_error {value : Json} {e : RoleError} (fails : Role.ofJson value = .error e)
    (before after : List RoleSource) :
    compile (before ++ .data value :: after) = compile (before ++ after) := by
  have litter : Littered after (.data value :: after) :=
    .unloadable (Role.not_isLoadable_of_error fails) (.refl after)
  exact compile_of_littered (litter.append_left before)

/-- A source without entries may as well be left out. -/
theorem compile_of_entries_eq_nil {source : RoleSource} {r : Role} (loads : source.role? = some r)
    (entryless : r.entries = []) (before after : List RoleSource) :
    compile (before ++ source :: after) = compile (before ++ after) := by
  have same : Role.allEntries (Role.load (before ++ source :: after)) =
      Role.allEntries (Role.load (before ++ after)) := by
    simp [Role.load, Role.allEntries, loads, entryless]
  exact congrArg ofEntries same

end Index

def writerData : List (String × Json) :=
  [("id", .str "writer"), ("context", .str "local"), ("permissions", .arr [.str "Doc.Write"])]

end AccessControl
