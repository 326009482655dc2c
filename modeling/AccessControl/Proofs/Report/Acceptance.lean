import AccessControl.Gateway.Route
import AccessControl.Proofs.Compile.Isolation
import AccessControl.Proofs.Field.Checked
import AccessControl.Proofs.Gateway.Guards
import Mathlib.Data.Set.List

/-!
# Which authorizations can be reported

The introspection answer is checked against its report before it is sent. Roles are kept as they
come, so they may fail to fit theirs; effective permissions are made by compiling and always fit.

* `RoleReport.reads_toJson`: a role is read as the report that is written like it, if there is one,
  and `Role.isReportable_iff` says when;
* `PermissionReport.ofJson_toJson`, `PermissionReport.list_toJson`: effective permissions always fit;
* `IamReport.ofJson_toJson`: so the whole answer fits where the roles do, and only they are at fault;
* `IamReport.toJson_of_accepted`: a report that was read is written as what it was read from, but a
  user identifier of very many levels is not written (`IamReport.written_of_accepted`).
-/
namespace AccessControl

/-- The role fits its report: the identifier, the name and the entries are texts, and the description
is a text too unless it is left out. -/
structure Role.IsReportable (r : Role) : Prop where
  id : ∃ s, r.id = .str s
  name : ∃ s, r.name = .str s
  permissions : ∀ value ∈ r.permissions, ∃ s, value = .str s
  description : r.description = .null ∨ ∃ s, r.description = .str s

def Grant.report : Grant → ResourcesReport
  | .all => .name allResources
  | .default => .name defaultResource
  | .specific resources => .names resources.names

def FlatPermission.report (p : FlatPermission) : PermissionReport :=
  ⟨p.context, p.scope, ⟨p.read, p.write⟩, p.resources.report⟩

theorem Grant.toJson_report (g : Grant) : g.report.toJson = g.toJson := by
  cases g <;> rfl

theorem FlatPermission.toJson_report (p : FlatPermission) : p.report.toJson = p.toJson := by
  rw [report, PermissionReport.toJson, Grant.toJson_report]
  rfl

theorem FlatPermission.map_toJson_report (permissions : List FlatPermission) :
    (permissions.map report).map PermissionReport.toJson = permissions.map toJson := by
  rw [List.map_map]
  exact List.map_congr_left fun p _ => p.toJson_report

/-- The resources are shown as a text or as a rising list of names. -/
theorem Grant.toJson_cases (g : Grant) :
    (∃ name, g.toJson = .str name) ∨
      ∃ names, g.toJson = .ofTexts names ∧ names.Pairwise NameBefore := by
  cases g with
  | all => exact Or.inl ⟨_, rfl⟩
  | default => exact Or.inl ⟨_, rfl⟩
  | specific resources => exact Or.inr ⟨_, rfl, resources.rising⟩

/-- A role is read as the report that is written like it. -/
theorem RoleReport.reads_toJson (r : Role) : Field.Reads ofJson toJson r.toJson := by
  intro report
  have described := Field.reads_nullable (by simp) (Field.reads_text r.description)
  simp only [ofJson, Role.toJson, Field.object, Field.required, Field.optional, List.lookup_cons,
    String.reduceBEq]
  rw [Checked.map_eq_ok_iff_of_inverse (fun report : RoleReport => (report.id, report.name,
    report.context, report.permissions, report.description)) (fun _ => rfl) (fun _ => rfl)]
  simp only [Checked.both_eq_ok_iff, Checked.under_eq_ok_iff, (Field.reads_text _).eq_ok_iff,
    (Context.reads_word _).eq_ok_iff, (Field.reads_texts _).eq_ok_iff, described.eq_ok_iff, toJson]
  cases report.description <;> simp

/-- The entries of a role are texts when they are those of some list of texts. -/
private theorem exists_eq_ofTexts_iff (values : List Json) :
    (∃ texts, Json.arr values = .ofTexts texts) ↔ ∀ value ∈ values, ∃ s, value = .str s := by
  have lifted : values ∈ Set.range (List.map Json.str) ↔
      ∀ value ∈ values, value ∈ Set.range Json.str := by
    rw [Set.range_list_map]
    rfl
  simpa [Json.ofTexts, eq_comm] using lifted

/-- A role is reportable when it is written like some report. -/
theorem Role.isReportable_iff (r : Role) :
    r.IsReportable ↔ ∃ report : RoleReport, r.toJson = report.toJson := by
  constructor
  · rintro ⟨⟨id, isId⟩, ⟨name, isName⟩, texts, description⟩
    obtain ⟨permissions, listed⟩ := (exists_eq_ofTexts_iff r.permissions).mpr texts
    rcases description with isNull | ⟨text, isText⟩
    · exact ⟨⟨id, name, r.context, permissions, none⟩, by
        rw [toJson, isId, isName, listed, isNull, RoleReport.toJson]⟩
    · exact ⟨⟨id, name, r.context, permissions, some text⟩, by
        rw [toJson, isId, isName, listed, isText, RoleReport.toJson]⟩
  · rintro ⟨⟨id, name, context, permissions, description⟩, same⟩
    simp only [toJson, RoleReport.toJson, Json.obj.injEq, List.cons.injEq, Prod.mk.injEq, true_and,
      and_true] at same
    obtain ⟨isId, isName, -, listed, isDescription⟩ := same
    refine ⟨⟨id, isId⟩, ⟨name, isName⟩, (exists_eq_ofTexts_iff _).mp ⟨permissions, listed⟩, ?_⟩
    cases description with
    | none => exact Or.inl isDescription
    | some text => exact Or.inr ⟨text, isDescription⟩

theorem ActionReport.ofJson_toJson (report : ActionReport) : ofJson report.toJson = .ok report := rfl

/-- The resources are read as the report that they are written from, since a text is no list. -/
theorem ResourcesReport.ofJson_toJson (report : ResourcesReport) :
    ofJson report.toJson = .ok report := by
  cases report with
  | name text => rfl
  | names texts =>
    have read : Field.texts (.ofTexts texts) = .ok texts := (Field.reads_texts _ texts).mpr rfl
    rw [ofJson, toJson, read]
    rfl

theorem PermissionReport.ofJson_toJson (report : PermissionReport) :
    ofJson report.toJson = .ok report := by
  simp only [ofJson, toJson, Field.object, Field.required, List.lookup_cons, String.reduceBEq,
    ActionReport.ofJson_toJson, ResourcesReport.ofJson_toJson,
    (Context.reads_word (.str report.context.text) report.context).mpr rfl]
  rfl

/-- Effective permissions always fit. -/
theorem PermissionReport.list_toJson (permissions : List FlatPermission) :
    Field.list ofJson (.arr (permissions.map FlatPermission.toJson)) =
      .ok (permissions.map FlatPermission.report) := by
  have reads : ∀ item ∈ permissions.map FlatPermission.toJson, Field.Reads ofJson toJson item := by
    intro item member
    obtain ⟨p, -, rfl⟩ := List.mem_map.mp member
    rw [← p.toJson_report]
    exact Field.reads_of_back ofJson_toJson p.report
  rw [(Field.reads_list reads).eq_ok_iff, FlatPermission.map_toJson_report]

namespace IamReport

variable {a : Authorization} {report : IamReport}

/-- The answer fits as far as its roles do. -/
theorem ofJson_toJson (a : Authorization) :
    ofJson a.toJson =
      ((Field.list RoleReport.ofJson (.arr (a.roles.map Role.toJson))).under (.member "roles")).map
        fun roles => ⟨a.userId, roles, a.permissions.map FlatPermission.report⟩ := by
  simp only [ofJson, Authorization.toJson, Field.object, Field.required, Field.aliased, List.lookup_cons,
    String.reduceBEq, PermissionReport.list_toJson]
  cases Field.list RoleReport.ofJson (.arr (a.roles.map Role.toJson)) <;>
    simp [Checked.under, Checked.both, Checked.errors, Except.map]

/-- All faults of the answer are in its roles. -/
theorem place_of_refused {es : List FieldError} (refused : ofJson a.toJson = .error es) :
    ∀ e ∈ es, ∃ rest, e.place = .member "roles" :: rest := by
  rw [ofJson_toJson] at refused
  cases roles : Field.list RoleReport.ofJson (.arr (a.roles.map Role.toJson)) with
  | ok reports =>
    rw [roles] at refused
    cases refused
  | error faults =>
    rw [roles] at refused
    cases refused
    intro e member
    obtain ⟨inner, -, rfl⟩ := List.mem_map.mp member
    exact ⟨inner.place, rfl⟩

theorem reads_roles (roles : List Role) (reports : List RoleReport) :
    Field.list RoleReport.ofJson (.arr (roles.map Role.toJson)) = .ok reports ↔
      roles.map Role.toJson = reports.map RoleReport.toJson := by
  have reads : ∀ item ∈ roles.map Role.toJson,
      Field.Reads RoleReport.ofJson RoleReport.toJson item := by
    intro item member
    obtain ⟨r, -, rfl⟩ := List.mem_map.mp member
    exact RoleReport.reads_toJson r
  rw [(Field.reads_list reads).eq_ok_iff, Json.arr.injEq]

theorem exists_roles_iff (roles : List Role) :
    (∃ reports, Field.list RoleReport.ofJson (.arr (roles.map Role.toJson)) = .ok reports) ↔
      ∀ r ∈ roles, r.IsReportable := by
  have lifted : roles.map Role.toJson ∈ Set.range (List.map RoleReport.toJson) ↔
      ∀ r ∈ roles, r.toJson ∈ Set.range RoleReport.toJson := by
    rw [Set.range_list_map]
    exact List.forall_mem_map
  simp only [reads_roles, Role.isReportable_iff]
  simpa [eq_comm] using lifted

/-- The answer fits exactly when every role is reportable. -/
theorem exists_ofJson_iff (a : Authorization) :
    (∃ report, ofJson a.toJson = .ok report) ↔ ∀ r ∈ a.roles, r.IsReportable := by
  rw [← exists_roles_iff, ofJson_toJson]
  simp [Checked.map_eq_ok_iff, Checked.under_eq_ok_iff]

/-- A report that was read is written as what it was read from. -/
theorem toJson_of_accepted (accepted : ofJson a.toJson = .ok report) :
    report.userId = a.userId ∧ report.toJson = a.toJson := by
  rw [ofJson_toJson, Checked.map_eq_ok_iff] at accepted
  obtain ⟨roles, read, rfl⟩ := accepted
  rw [Checked.under_eq_ok_iff, reads_roles] at read
  refine ⟨rfl, ?_⟩
  rw [toJson, FlatPermission.map_toJson_report, ← read]
  rfl

/-- A report that was read is written back unless its user identifier is too deep. -/
theorem written_of_accepted (accepted : ofJson a.toJson = .ok report) :
    report.written = if maxLevels < a.userId.levels then .error .tooDeep else .ok a.toJson := by
  obtain ⟨user, same⟩ := toJson_of_accepted accepted
  rw [written, user, same]

end IamReport

namespace Json

theorem itemLevels_texts {values : List Json} (texts : ∀ value ∈ values, ∃ s, value = .str s) :
    itemLevels values ≤ 1 := by
  induction values with
  | nil => exact Nat.zero_le 1
  | cons value rest ih =>
    obtain ⟨⟨s, rfl⟩, later⟩ := List.forall_mem_cons.mp texts
    exact Nat.max_le.mpr ⟨Nat.le_refl 1, ih later⟩

end Json

/-- A reportable role is flat, so that it is never too deep to be shown. -/
theorem Role.IsReportable.levels_le {r : Role} (h : r.IsReportable) : r.levels ≤ 2 := by
  obtain ⟨⟨id, isId⟩, ⟨name, isName⟩, texts, description⟩ := h
  have entries := Json.itemLevels_texts texts
  have described : r.description.levels = 1 := by
    rcases description with isNull | ⟨text, isText⟩
    · rw [isNull]
      rfl
    · rw [isText]
      rfl
  simp only [levels, isId, isName, described, Json.levels]
  omega

namespace Authorization

variable {a : Authorization} {most : Nat} {body : Json}

theorem written?_eq_some_iff :
    a.written? most = some body ↔ (∀ r ∈ a.roles, r.levels ≤ most) ∧ a.toJson = body := by
  rw [written?]
  split
  · rename_i deep
    obtain ⟨r, loaded, exceeds⟩ := List.any_eq_true.mp deep
    refine iff_of_false (by simp) fun shown => ?_
    exact absurd (of_decide_eq_true exceeds) (Nat.not_lt.mpr (shown.1 r loaded))
  · rename_i shallow
    have within : ∀ r ∈ a.roles, r.levels ≤ most := by simpa using shallow
    rw [Option.some.injEq]
    exact (and_iff_right within).symm

theorem written?_of_reportable (room : 2 ≤ most) (reportable : ∀ r ∈ a.roles, r.IsReportable) :
    a.written? most = some a.toJson :=
  written?_eq_some_iff.mpr
    ⟨fun r loaded => Nat.le_trans (reportable r loaded).levels_le room, rfl⟩

/-- The introspection of an authorization has an answer exactly when its roles are reportable, its
user identifier is not too deep and all of its texts have octets. The answer shows it whole but for
the numbers that cannot be written. -/
theorem introspection_eq_answered_iff (response : Response) :
    introspection a = .answered response ↔
      ((∀ r ∈ a.roles, r.IsReportable) ∧ a.userId.levels ≤ IamReport.maxLevels ∧
        a.toJson.isEncodable = true) ∧ response = ⟨200, a.toJson.finitePart⟩ := by
  by_cases reportable : ∀ r ∈ a.roles, r.IsReportable
  · have shown : a.written? maxIntrospectionLevels = some a.toJson :=
      written?_of_reportable (by decide) reportable
    obtain ⟨report, accepted⟩ := (IamReport.exists_ofJson_iff a).mpr reportable
    simp only [introspection, shown, accepted, IamReport.written_of_accepted accepted,
      and_iff_right reportable]
    by_cases deep : IamReport.maxLevels < a.userId.levels
    · simp [deep, Nat.not_le.mpr deep]
    · by_cases octets : a.toJson.isEncodable = true
      · simp [deep, octets, Nat.not_lt.mp deep, eq_comm]
      · simp [deep, octets]
  · refine iff_of_false ?_ fun answered => reportable answered.1.1
    rw [introspection]
    cases shown : a.written? maxIntrospectionLevels with
    | none => simp
    | some body =>
      obtain ⟨-, rfl⟩ := written?_eq_some_iff.mp shown
      cases checked : IamReport.ofJson a.toJson with
      | error es => simp [checked]
      | ok report => exact absurd ((IamReport.exists_ofJson_iff a).mp ⟨report, checked⟩) reportable

end Authorization

/-- When the introspection answer of a user can be given, and what it is. It fits its report exactly
when each role that loads is reportable; the effective permissions fit whatever the roles are, so
that all faults are in the roles. An answer that fits tells the user identifier, the loaded roles in
order and the effective permissions in order, the resources of each as a text or a rising list, and
it is written back as it was unless the user identifier has more levels than a report may have. Hence
the answers of the introspection endpoint. Roles that are not reportable serve every guard
nevertheless. -/
theorem IamReport.accepts_iff_reportable (userId : Json) (sources : List RoleSource) :
    ((∃ body report, (Authorization.build userId sources).written? Role.maxLevels = some body ∧
        ofJson body = .ok report) ↔ ∀ r ∈ Role.load sources, r.IsReportable) ∧
    ((∃ reports, Field.list PermissionReport.ofJson
        (.arr ((Authorization.build userId sources).permissions.map FlatPermission.toJson)) =
          .ok reports) ∧
      ∀ body es, (Authorization.build userId sources).written? Role.maxLevels = some body →
        ofJson body = .error es → ∀ e ∈ es, ∃ rest, e.place = .member "roles" :: rest) ∧
    (∀ body report, (Authorization.build userId sources).written? Role.maxLevels = some body →
      ofJson body = .ok report →
        body = .obj [("userId", userId), ("roles", .arr ((Role.load sources).map Role.toJson)),
          ("permissions", .arr ((Index.compile sources).flatten.map FlatPermission.toJson))] ∧
        (∀ p ∈ (Index.compile sources).flatten, (∃ name, p.resources.toJson = .str name) ∨
          ∃ names, p.resources.toJson = .ofTexts names ∧ names.Pairwise NameBefore) ∧
        report.written = if maxLevels < userId.levels then .error .tooDeep else .ok body) ∧
    (∀ response, introspection (.build userId sources) = .answered response ↔
      ((∀ r ∈ Role.load sources, r.IsReportable) ∧ userId.levels ≤ maxLevels ∧
        (Authorization.build userId sources).toJson.isEncodable = true) ∧
      response = ⟨200, (Authorization.build userId sources).toJson.finitePart⟩) ∧
    ∀ g : Guard, g.IsMade → g.run (.build userId sources) = .ok () ∨
      g.run (.build userId sources) = .error g.refusal := by
  refine ⟨⟨?_, fun reportable => ?_⟩, ⟨⟨_, PermissionReport.list_toJson _⟩, ?_⟩, ?_,
    Authorization.introspection_eq_answered_iff, ?_⟩
  · rintro ⟨body, report, shown, accepted⟩
    obtain ⟨-, rfl⟩ := Authorization.written?_eq_some_iff.mp shown
    exact (exists_ofJson_iff _).mp ⟨report, accepted⟩
  · obtain ⟨report, accepted⟩ := (exists_ofJson_iff (.build userId sources)).mpr reportable
    exact ⟨_, report, Authorization.written?_of_reportable (by decide) reportable, accepted⟩
  · intro body es shown refused
    obtain ⟨-, rfl⟩ := Authorization.written?_eq_some_iff.mp shown
    exact place_of_refused refused
  · intro body report shown accepted
    obtain ⟨-, rfl⟩ := Authorization.written?_eq_some_iff.mp shown
    refine ⟨?_, fun p _ => p.resources.toJson_cases, written_of_accepted accepted⟩
    rw [← Authorization.index_build userId sources]
    rfl
  · intro g made
    by_cases passes : g.Passes (.build userId sources)
    · exact Or.inl (Guard.run_eq_ok_iff.mpr passes)
    · exact Or.inr (Guard.run_of_not_passes made passes)

/-- The roles of `dividedRoles` are reported as they are. The identifier of a `localRole` is no text,
which is a fault of the roles; the role is good for a guard. -/
theorem IamReport.accepts_dividedRoles :
    (∃ body report, (Authorization.build (.str "ann") dividedRoles).written? Role.maxLevels =
        some body ∧ ofJson body = .ok report ∧
      report.written =
        if maxLevels < (Json.str "ann").levels then .error .tooDeep else .ok body) ∧
    (∃ body es, (Authorization.build .null [localRole ["Doc.Read"]]).written? Role.maxLevels =
        some body ∧ ofJson body = .error es ∧
      ∀ e ∈ es, ∃ rest, e.place = .member "roles" :: rest) ∧
    ∃ g, Guard.make ⟨.resource, .anywhere⟩ [.str "Doc.Read"] = .ok g ∧
      (g.run (.build .null [localRole ["Doc.Read"]]) = .ok () ∨
        g.run (.build .null [localRole ["Doc.Read"]]) = .error g.refusal) := by
  have reported := accepts_iff_reportable (.str "ann") dividedRoles
  have refused := accepts_iff_reportable .null [localRole ["Doc.Read"]]
  refine ⟨?_, ?_, ?_⟩
  · refine ⟨_, _, rfl, rfl, ?_⟩
    exact (reported.2.2.1 _ _ rfl rfl).2.2
  · refine ⟨_, _, rfl, rfl, ?_⟩
    exact refused.2.1.2 _ _ rfl rfl
  · have made : Guard.make ⟨.resource, .anywhere⟩ [.str "Doc.Read"] =
        .ok ⟨⟨.resource, .anywhere⟩, [.str "Doc.Read"]⟩ := rfl
    exact ⟨_, made, refused.2.2.2.2 _ ⟨_, _, made⟩⟩

def Json.nested : Nat → Json
  | 0 => .null
  | n + 1 => .arr [nested n]

theorem Json.levels_nested (n : Nat) : (nested n).levels = n + 1 := by
  induction n with
  | zero => rfl
  | succ n ih => simp only [nested, levels, itemLevels, ih, Nat.max_zero, Nat.add_comm]

/-- A user identifier of very many levels fits the report, which is then not written. -/
theorem IamReport.written_nested :
    ∃ body report, (Authorization.build (.nested 400) []).written? Role.maxLevels = some body ∧
      ofJson body = .ok report ∧ report.written = .error .tooDeep ∧ report.written ≠ .ok body := by
  have deep : (⟨.nested 400, [], []⟩ : IamReport).written = .error .tooDeep := by
    rw [written, Json.levels_nested]
    rfl
  refine ⟨_, ⟨.nested 400, [], []⟩, rfl, rfl, deep, ?_⟩
  rw [deep]
  simp

end AccessControl
