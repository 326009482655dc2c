import AccessControl.Proofs.Compile.Tolerance
import AccessControl.Proofs.Report.Acceptance

/-!
# Roles are read back from what they are written as

A role is written as an object with all of its fields, in which every value is copied, and copying
goes one step down for each level of a value. `Json.copyWithin?` is this copy with the steps that
there is room for, and `Json.copyWithin?_eq` tells what it gives: the value itself, or nothing if the
value has more levels. Hence

* `Role.copied?_eq_written?`: a role is written exactly if it has no more levels than there is room for;
* `Role.ofJson_toJson`: what is written reads as the role, whatever its fields hold;
* `Role.mapM_written?_eq_some_iff`: roles are written one by one if none of them is too deep;
* `Role.load_written`, and with it the compiled index: loading gives back the roles that were written.
-/
namespace AccessControl

namespace Json

mutual

/-- The copy of a value that is made with room for some levels. -/
def copyWithin? : Nat → Json → Option Json
  | 0, _ => none
  | room + 1, .arr items => (copyItems? room items).map .arr
  | room + 1, .obj members => (copyMembers? room members).map .obj
  | _ + 1, value => some value

def copyItems? : Nat → List Json → Option (List Json)
  | _, [] => some []
  | room, item :: rest =>
    match copyWithin? room item, copyItems? room rest with
    | some item, some rest => some (item :: rest)
    | _, _ => none

def copyMembers? : Nat → List (String × Json) → Option (List (String × Json))
  | _, [] => some []
  | room, (key, value) :: rest =>
    match copyWithin? room value, copyMembers? room rest with
    | some value, some rest => some ((key, value) :: rest)
    | _, _ => none

end

theorem levels_pos (value : Json) : 0 < value.levels := by
  cases value <;> simp only [levels] <;> omega

mutual

/-- A copy is the value itself, and there is one exactly if there is room for all levels. -/
theorem copyWithin?_eq (room : Nat) (value : Json) :
    copyWithin? room value = if value.levels ≤ room then some value else none := by
  cases room with
  | zero =>
    rw [copyWithin?, if_neg (Nat.not_le.mpr value.levels_pos)]
  | succ room =>
    -- the value itself takes one level, and what it holds has to do with the rest
    cases value with
    | arr items =>
      have fits : (Json.arr items).levels ≤ room + 1 ↔ itemLevels items ≤ room := by
        rw [levels]
        omega
      simp only [copyWithin?, copyItems?_eq room items, fits]
      split <;> rfl
    | obj members =>
      have fits : (Json.obj members).levels ≤ room + 1 ↔ memberLevels members ≤ room := by
        rw [levels]
        omega
      simp only [copyWithin?, copyMembers?_eq room members, fits]
      split <;> rfl
    | _ => rw [copyWithin?, levels, if_pos (Nat.succ_le_succ (Nat.zero_le room))] <;> simp

theorem copyItems?_eq (room : Nat) (items : List Json) :
    copyItems? room items = if itemLevels items ≤ room then some items else none := by
  cases items with
  | nil => rw [copyItems?, itemLevels, if_pos (Nat.zero_le room)]
  | cons item rest =>
    rw [copyItems?, copyWithin?_eq room item, copyItems?_eq room rest, itemLevels]
    by_cases first : item.levels ≤ room <;> by_cases later : itemLevels rest ≤ room <;>
      simp [first, later]

theorem copyMembers?_eq (room : Nat) (members : List (String × Json)) :
    copyMembers? room members = if memberLevels members ≤ room then some members else none := by
  cases members with
  | nil => rw [copyMembers?, memberLevels, if_pos (Nat.zero_le room)]
  | cons entry rest =>
    obtain ⟨key, value⟩ := entry
    rw [copyMembers?, copyWithin?_eq room value, copyMembers?_eq room rest, memberLevels]
    by_cases first : value.levels ≤ room <;> by_cases later : memberLevels rest ≤ room <;>
      simp [first, later]

end

end Json

namespace Role

variable {most : Nat} {r : Role} {data : Json}

/-- The role as a plain object in which every value is copied, with room for some levels. -/
def copied? (most : Nat) (r : Role) : Option Json :=
  match Json.copyWithin? most r.id, Json.copyWithin? most r.name,
    Json.copyWithin? most (.arr r.permissions), Json.copyWithin? most r.description with
  | some id, some name, some permissions, some description =>
    some (.obj [("id", id), ("name", name), ("context", .str r.context.text),
      ("permissions", permissions), ("description", description)])
  | _, _, _, _ => none

theorem levels_le_iff :
    r.levels ≤ most ↔ r.id.levels ≤ most ∧ r.name.levels ≤ most ∧
      (Json.arr r.permissions).levels ≤ most ∧ r.description.levels ≤ most := by
  rw [levels]
  omega

theorem written?_eq_none_iff : r.written? most = none ↔ most < r.levels := by
  rw [written?]
  split <;> simp_all

theorem written?_eq_some_iff : r.written? most = some data ↔ r.levels ≤ most ∧ data = r.toJson := by
  rw [written?]
  split
  · rename_i deep
    exact iff_of_false (by simp) fun shown => absurd deep (Nat.not_lt.mpr shown.1)
  · rename_i fits
    rw [Option.some.injEq, and_iff_right (Nat.not_lt.mp fits), eq_comm]

/-- Copying has room for a role exactly if it has room for each of its values. -/
theorem copied?_eq_written? (most : Nat) (r : Role) : r.copied? most = r.written? most := by
  by_cases fits : r.levels ≤ most
  · obtain ⟨id, name, permissions, description⟩ := levels_le_iff.mp fits
    rw [written?_eq_some_iff.mpr ⟨fits, rfl⟩, copied?]
    simp only [Json.copyWithin?_eq, if_pos id, if_pos name, if_pos permissions, if_pos description,
      toJson]
  · rw [written?_eq_none_iff.mpr (Nat.not_le.mp fits), copied?]
    simp only [Json.copyWithin?_eq]
    -- the copy ends at the first value that is too deep, and if it is none of three it is the last
    by_cases id : r.id.levels ≤ most
    · by_cases name : r.name.levels ≤ most
      · by_cases permissions : (Json.arr r.permissions).levels ≤ most
        · have description : ¬ r.description.levels ≤ most := fun description =>
            fits (levels_le_iff.mpr ⟨id, name, permissions, description⟩)
          simp [description]
        · simp [permissions]
      · simp [name]
    · simp [id]

/-- What is written of a role reads as the role: its entries are a list, which is taken as it
stands, and its name and description are there even where they are null. -/
theorem ofJson_toJson (r : Role) : ofJson r.toJson = .ok r := by
  rw [toJson, ofJson_eq_ok_iff]
  simp only [List.lookup_cons, String.reduceBEq, entriesOf_list, Option.getD_some, and_self]

/-- Roles are written one after the other, unless one of them is too deep. -/
theorem mapM_written?_eq_some_iff (roles : List Role) (datas : List Json) :
    roles.mapM (written? most) = some datas ↔
      (∀ r ∈ roles, r.levels ≤ most) ∧ datas = roles.map toJson := by
  induction roles generalizing datas with
  | nil => simp [eq_comm]
  | cons r rest ih =>
    simp only [List.mapM_cons, Option.bind_eq_bind, Option.bind_eq_some_iff, Option.pure_def,
      Option.some.injEq, written?_eq_some_iff, ih, List.forall_mem_cons, List.map_cons]
    constructor
    · rintro ⟨_, ⟨fits, rfl⟩, _, ⟨later, rfl⟩, rfl⟩
      exact ⟨⟨fits, later⟩, rfl⟩
    · rintro ⟨⟨fits, later⟩, rfl⟩
      exact ⟨_, ⟨fits, rfl⟩, _, ⟨later, rfl⟩, rfl⟩

theorem mapM_written?_eq_none {roles : List Role} (listed : r ∈ roles) (deep : most < r.levels) :
    roles.mapM (written? most) = none := by
  rw [Option.eq_none_iff_forall_ne_some]
  intro datas written
  exact absurd deep (Nat.not_lt.mpr (((mapM_written?_eq_some_iff roles datas).mp written).1 r listed))

/-- Loading gives back the roles that were written. -/
theorem load_written (roles : List Role) : load ((roles.map toJson).map .data) = roles := by
  induction roles with
  | nil => rfl
  | cons r rest ih =>
    rw [List.map_cons, List.map_cons, load,
      List.filterMap_cons_some (RoleSource.role?_data r.ofJson_toJson)]
    exact congrArg (r :: ·) ih

/-- A value loaded as a role and written as one again. -/
def rewritten? (most : Nat) (value : Json) : Option Json :=
  (RoleSource.data value).role?.bind (written? most)

theorem rewritten?_of_ofJson {value : Json} (loads : ofJson value = .ok r) :
    rewritten? most value = r.written? most := by
  rw [rewritten?, RoleSource.role?_data loads, Option.bind_some]

/-- Reading a role and writing it undo each other. Writing copies every value of the role, which
takes room for all of its levels. A role that there is room for is written, whatever values its
fields hold, and what is written reads as that role; a role that is too deep is not written. Hence
writing what was read gives a value that stays as it is when it is read and written again, and of any
sources the written roles load as the roles that they were written from and compile to the same
index. -/
theorem written_loads_as_itself (most : Nat) :
    (∀ r : Role, r.copied? most = r.written? most ∧ (r.written? most = none ↔ most < r.levels) ∧
      (r.levels ≤ most → ∃ data, r.written? most = some data ∧ ofJson data = .ok r)) ∧
    (∀ value r, ofJson value = .ok r → r.levels ≤ most →
      ∃ data, rewritten? most value = some data ∧ rewritten? most data = some data) ∧
    (∀ sources, (∀ r ∈ load sources, r.levels ≤ most) →
      ∃ datas, (load sources).mapM (written? most) = some datas ∧
        load (datas.map .data) = load sources ∧
        Index.compile (datas.map .data) = Index.compile sources) ∧
    ∀ sources, (∃ r ∈ load sources, most < r.levels) →
      (load sources).mapM (written? most) = none := by
  refine ⟨fun r => ⟨copied?_eq_written? most r, written?_eq_none_iff, fun fits => ?_⟩, ?_, ?_, ?_⟩
  · exact ⟨r.toJson, written?_eq_some_iff.mpr ⟨fits, rfl⟩, r.ofJson_toJson⟩
  · intro value r loads fits
    have written : r.written? most = some r.toJson := written?_eq_some_iff.mpr ⟨fits, rfl⟩
    refine ⟨r.toJson, ?_, ?_⟩
    · rw [rewritten?_of_ofJson loads, written]
    · rw [rewritten?_of_ofJson r.ofJson_toJson, written]
  · intro sources fit
    have loaded : load (((load sources).map toJson).map .data) = load sources := load_written _
    refine ⟨_, (mapM_written?_eq_some_iff _ _).mpr ⟨fit, rfl⟩, loaded, ?_⟩
    rw [Index.compile, loaded, Index.compile]
  · rintro sources ⟨r, loaded, deep⟩
    exact mapM_written?_eq_none loaded deep

def deep (n : Nat) : Role :=
  ⟨.nested n, .nested n, .local, [], .null⟩

theorem levels_deep (n : Nat) : (deep n).levels = n + 1 := by
  simp only [levels, deep, Json.levels_nested, Json.levels, Json.itemLevels]
  omega

/-- The data of a role with null for its identifier, a list for its name, the keys of an object for
its entries and no text for its description. -/
def oddData : Json :=
  .obj [("id", .null), ("context", .str "global"), ("name", .arr [.int 1, .null]),
    ("permissions", .obj [("Doc.Read", .null)]), ("description", .bool false)]

/-- The role of `oddData` is written as it was read and compiles the same from there, and a list of
sources with a deep role is not written. -/
theorem rewritten_oddData :
    (∃ data, rewritten? maxLevels oddData = some data ∧ rewritten? maxLevels data = some data) ∧
    (∃ data, (deep 200).written? maxLevels = some data ∧ ofJson data = .ok (deep 200)) ∧
    (∃ datas, (load [.data oddData, .data .null]).mapM (written? maxLevels) = some datas ∧
      load (datas.map .data) = load [.data oddData, .data .null] ∧
      Index.compile (datas.map .data) = Index.compile [.data oddData, .data .null]) ∧
    (load [.data oddData, .loaded (deep 600)]).mapM (written? maxLevels) = none := by
  obtain ⟨each, fixed, listed, unlisted⟩ := written_loads_as_itself maxLevels
  refine ⟨fixed oddData ⟨.null, .arr [.int 1, .null], .global, [.str "Doc.Read"], .bool false⟩ rfl
    (by decide), (each (deep 200)).2.2 ?_, listed _ (by decide), unlisted _ ⟨deep 600, ?_, ?_⟩⟩
  · rw [levels_deep]
    decide
  · exact List.mem_cons_of_mem _ (List.mem_singleton_self _)
  · rw [levels_deep]
    decide

/-- A role may be too deep to be written though it was read. -/
theorem deep_not_written :
    ofJson (.obj [("id", .nested 600), ("context", .str "local")]) = .ok (deep 600) ∧
    (deep 600).written? maxLevels = none ∧
    ¬ ∀ r : Role, ∃ data, r.written? maxLevels = some data ∧ ofJson data = .ok r := by
  have unwritten : (deep 600).written? maxLevels = none := by
    rw [written?_eq_none_iff, levels_deep]
    decide
  refine ⟨rfl, unwritten, fun always => ?_⟩
  obtain ⟨data, written, -⟩ := always (deep 600)
  cases unwritten.symm.trans written

end Role

end AccessControl
