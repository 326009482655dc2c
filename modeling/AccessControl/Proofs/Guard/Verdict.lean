import AccessControl.Proofs.Gateway.Guards
import AccessControl.Proofs.Permission.Grammar

/-!
# When a guard fails

A list of permissions is walked through twice: by `Guard.make`, which reads all of them, and by
`Authorization.holds`, which asks for one after the other and stops as soon as the answer is known.
Each walk ends at the first value that it does not want (`IsFirstUnwanted`), for the one a value that
is no permission, for the other a value that is not held.

* `make_eq_error_iff`, `make_eq_ok_iff`: how the first walk ends;
* `Authorization.holds_eq_iff_of_ne`: how the second one does, and from it when it fails, when it
  refuses and when it comes to its end;
* so all that a guard which is made can complain about is what an authorization lacks
  (`run_eq_error_iff`), and of its values the set counts alone (`make_of_same_values`).
-/
namespace AccessControl

/-- The value is the first of a list that is not as wanted. -/
def IsFirstUnwanted {α : Type} (wanted : α → Prop) (values : List α) (value : α) : Prop :=
  ∃ before after, values = before ++ value :: after ∧ (∀ v ∈ before, wanted v) ∧ ¬ wanted value

section FirstUnwanted

variable {α β ε : Type} {wanted : α → Prop} {head value : α} {rest values : List α}

theorem not_isFirstUnwanted_nil : ¬ IsFirstUnwanted wanted [] value := by
  rintro ⟨before, after, parts, -⟩
  simp at parts

theorem isFirstUnwanted_cons_of_wanted (here : wanted head) :
    IsFirstUnwanted wanted (head :: rest) value ↔ IsFirstUnwanted wanted rest value := by
  constructor
  · rintro ⟨before, after, listed, earlier, unwanted⟩
    cases before with
    | nil =>
      obtain ⟨same, -⟩ := List.cons.inj listed
      exact absurd (same ▸ here) unwanted
    | cons first before =>
      exact ⟨before, after, (List.cons.inj listed).2, (List.forall_mem_cons.mp earlier).2, unwanted⟩
  · rintro ⟨before, after, rfl, earlier, unwanted⟩
    exact ⟨head :: before, after, rfl, List.forall_mem_cons.mpr ⟨here, earlier⟩, unwanted⟩

theorem isFirstUnwanted_cons_of_unwanted (unwanted : ¬ wanted head) :
    IsFirstUnwanted wanted (head :: rest) value ↔ value = head := by
  constructor
  · rintro ⟨before, after, listed, earlier, -⟩
    cases before with
    | nil => exact (List.cons.inj listed).1.symm
    | cons first before =>
      have here := (List.forall_mem_cons.mp earlier).1
      exact absurd ((List.cons.inj listed).1 ▸ here) unwanted
  · rintro rfl
    exact ⟨[], rest, rfl, by simp, unwanted⟩

/-- A list has a first unwanted value unless all of its values are wanted. -/
theorem not_exists_isFirstUnwanted_iff :
    (¬ ∃ value, IsFirstUnwanted wanted values value) ↔ ∀ value ∈ values, wanted value := by
  induction values with
  | nil => simp [not_isFirstUnwanted_nil]
  | cons head rest ih =>
    rw [List.forall_mem_cons, ← ih]
    by_cases here : wanted head
    · simp only [isFirstUnwanted_cons_of_wanted here, here, true_and]
    · simp [isFirstUnwanted_cons_of_unwanted here, here]

def IsReadable (read : α → Except ε β) (value : α) : Prop := ∃ b, read value = .ok b

theorem not_isReadable_iff {read : α → Except ε β} :
    ¬ IsReadable read value ↔ ∃ e, read value = .error e := by
  unfold IsReadable
  cases read value <;> simp

/-- A reading of a list fails at the first value that cannot be read, and with its failure. -/
theorem mapM_eq_error_iff {read : α → Except ε β} {e : ε} :
    values.mapM read = .error e ↔
      ∃ value, IsFirstUnwanted (IsReadable read) values value ∧ read value = .error e := by
  induction values with
  | nil => simp [not_isFirstUnwanted_nil, pure, Except.pure]
  | cons head rest ih =>
    rw [List.mapM_cons]
    cases first : read head with
    | error fault =>
      have unread : ¬ IsReadable read head := by simp [IsReadable, first]
      simp [isFirstUnwanted_cons_of_unwanted unread, first, bind, Except.bind]
    | ok b =>
      simp only [isFirstUnwanted_cons_of_wanted (show IsReadable read head from ⟨b, first⟩), ← ih]
      cases rest.mapM read <;> simp [bind, Except.bind, pure, Except.pure]

/-- A reading of a list succeeds where every value can be read. -/
theorem exists_mapM_eq_ok_iff {read : α → Except ε β} :
    (∃ readings, values.mapM read = .ok readings) ↔ ∀ value ∈ values, IsReadable read value := by
  constructor
  · rintro ⟨readings, succeeded⟩
    exact readable_of_mapM succeeded
  · intro readable
    cases ended : values.mapM read with
    | ok readings => exact ⟨readings, rfl⟩
    | error e =>
      obtain ⟨value, first, -⟩ := mapM_eq_error_iff.mp ended
      exact absurd ⟨value, first⟩ (not_exists_isFirstUnwanted_iff.mpr readable)

end FirstUnwanted

namespace Authorization

/-- The value reads as a permission that is held. -/
def Grants (a : Authorization) (check : Check) (value : Json) : Prop :=
  a.index.query check value = .ok true

variable {a : Authorization} {check : Check} {values : List Json}

/-- A walk that does not come to its end stops at the first value that is not held, and as the
question about that value ends. -/
theorem holds_eq_iff_of_ne {ending : Except MalformedPermission Bool} (early : ending ≠ .ok true) :
    a.holds check values = ending ↔
      ∃ value, IsFirstUnwanted (a.Grants check) values value ∧
        a.index.query check value = ending := by
  induction values with
  | nil => simp [holds, not_isFirstUnwanted_nil, early.symm]
  | cons head rest ih =>
    rw [holds]
    by_cases held : a.Grants check head
    · rw [show a.index.query check head = .ok true from held]
      simp only [isFirstUnwanted_cons_of_wanted held, ih]
    · simp only [isFirstUnwanted_cons_of_unwanted held, exists_eq_left]
      rcases asked : a.index.query check head with fault | (_ | _)
      · rfl
      · rfl
      · exact absurd asked held

/-- The walk fails at the first value that is not held, if it is no permission. -/
theorem holds_eq_error_iff {e : MalformedPermission} :
    a.holds check values = .error e ↔
      ∃ value, IsFirstUnwanted (a.Grants check) values value ∧ Permission.read value = .error e := by
  simp only [holds_eq_iff_of_ne (show Except.error e ≠ .ok true by simp),
    a.index.query_eq_error_iff check]

/-- The walk ends in a refusal at the first value that is not held, if it is a permission. -/
theorem holds_eq_false_iff :
    a.holds check values = .ok false ↔
      ∃ value, IsFirstUnwanted (a.Grants check) values value ∧
        IsReadable Permission.read value := by
  rw [holds_eq_iff_of_ne (by simp)]
  refine exists_congr fun value => and_congr_right fun first => ?_
  obtain ⟨_, _, _, _, lacking⟩ := first
  rw [IsReadable, ← a.index.exists_query_eq_ok_iff check]
  constructor
  · exact fun refused => ⟨false, refused⟩
  · rintro ⟨_ | _, answered⟩
    · exact answered
    · exact absurd answered lacking

/-- The walk comes to its end where every value is held. -/
theorem holds_eq_true_iff_not_exists :
    a.holds check values = .ok true ↔ ¬ ∃ value, IsFirstUnwanted (a.Grants check) values value := by
  rw [holds_eq_true_iff, not_exists_isFirstUnwanted_iff]
  rfl

end Authorization

namespace Guard

variable {check : Check} {required : List Json} {g : Guard} {a : Authorization}

/-- A guard is not made when one of its values cannot be read, and the first one is at fault. -/
theorem make_eq_error_iff {e : MalformedPermission} :
    make check required = .error e ↔
      ∃ value, IsFirstUnwanted (IsReadable Permission.read) required value ∧
        Permission.read value = .error e := by
  rw [← mapM_eq_error_iff, make]
  cases required.mapM Permission.read <;> simp

theorem make_eq_ok_iff :
    make check required = .ok g ↔
      (∀ value ∈ required, IsReadable Permission.read value) ∧ g = ⟨check, required⟩ := by
  rw [← exists_mapM_eq_ok_iff, make]
  cases required.mapM Permission.read <;> simp [eq_comm]

/-- What a guard that is made reports is what an authorization lacks, with all that it demands. -/
theorem run_eq_error_iff (made : make check required = .ok g) (f : Failure) :
    g.run a = .error f ↔ ¬ (∀ value ∈ required, a.Grants check value) ∧ f = g.refusal := by
  have passes : g.Passes a ↔ ∀ value ∈ required, a.Grants check value := by
    obtain ⟨-, rfl⟩ := make_eq_ok_iff.mp made
    rfl
  rw [← passes]
  by_cases passed : g.Passes a
  · rw [run_eq_ok_iff.mpr passed]
    simp [passed]
  · rw [run_of_not_passes ⟨check, required, made⟩ passed]
    simp [passed, eq_comm]

/-- A guard with the same values in another order, or some of them more than once, is made too and
lets the same authorizations pass. -/
theorem make_of_same_values (made : make check required = .ok g) {others : List Json}
    (same : ∀ value, value ∈ others ↔ value ∈ required) :
    ∃ other, make check others = .ok other ∧
      ∀ a : Authorization, other.run a = .ok () ↔ g.run a = .ok () := by
  obtain ⟨readable, rfl⟩ := make_eq_ok_iff.mp made
  refine ⟨⟨check, others⟩, make_eq_ok_iff.mpr ⟨?_, rfl⟩, fun a => ?_⟩
  · exact fun value member => readable value ((same value).mp member)
  · rw [run_eq_ok_iff, run_eq_ok_iff]
    exact forall_congr' fun value => imp_congr_left (same value)

/-- Guards fail when they are made or never. Of each of the six kinds, a guard is not made exactly
when one of its values is no permission, and the first of these is reported. Once it is made it lets
an authorization pass exactly when every value is held, by the question of its kind, and otherwise
denies permission, whatever the authorization is; the denial names all the values and the kind.
Neither order nor repetition of the values matters to that. The direct walk over any values, on the
other hand, stops at the first that is not a permission which is held: it fails where that is no
permission and refuses where it is one, and it agrees exactly when there is no such value. -/
theorem faults_show_when_made (check : Check) (required : List Json) :
    (((∃ e, make check required = .error e) ↔
        ∃ value ∈ required, ∃ e, Permission.read value = .error e) ∧
      ∀ e, make check required = .error e ↔
        ∃ value, IsFirstUnwanted (IsReadable Permission.read) required value ∧
          Permission.read value = .error e) ∧
    (∀ g, make check required = .ok g →
      (∀ a : Authorization,
        (g.run a = .ok () ↔ ∀ value ∈ required, a.index.query check value = .ok true) ∧
        ∀ f, g.run a = .error f → f.kind = .permissionDenied ∧ f.status = 403 ∧
          f.details = .obj [("required", .arr required), ("kind", .str check.label)]) ∧
      ∀ others, (∀ value, value ∈ others ↔ value ∈ required) →
        ∃ other, make check others = .ok other ∧
          ∀ a : Authorization, other.run a = .ok () ↔ g.run a = .ok ()) ∧
    ∀ a : Authorization,
      (∀ e, a.holds check required = .error e ↔
        ∃ value, IsFirstUnwanted (a.Grants check) required value ∧
          Permission.read value = .error e) ∧
      (a.holds check required = .ok false ↔
        ∃ value, IsFirstUnwanted (a.Grants check) required value ∧
          IsReadable Permission.read value) ∧
      (a.holds check required = .ok true ↔
        ¬ ∃ value, IsFirstUnwanted (a.Grants check) required value) := by
  refine ⟨⟨?_, fun e => make_eq_error_iff⟩, fun g made => ⟨fun a => ⟨?_, fun f denied => ?_⟩, ?_⟩,
    fun a => ⟨fun e => a.holds_eq_error_iff, a.holds_eq_false_iff, a.holds_eq_true_iff_not_exists⟩⟩
  · have failed : (∃ e, make check required = .error e) ↔
        ¬ ∀ value ∈ required, IsReadable Permission.read value := by
      rw [← exists_mapM_eq_ok_iff, make]
      cases required.mapM Permission.read <;> simp
    rw [failed]
    simp only [not_forall, not_isReadable_iff, exists_prop]
  · obtain ⟨-, rfl⟩ := make_eq_ok_iff.mp made
    exact run_eq_ok_iff
  · obtain ⟨-, rfl⟩ := (run_eq_error_iff made f).mp denied
    obtain ⟨-, rfl⟩ := make_eq_ok_iff.mp made
    exact ⟨rfl, rfl, rfl⟩
  · exact fun others same => make_of_same_values made same

end Guard

def editorAuthorization : Authorization :=
  .build (.str "ann") [.loaded ⟨.int 7, .str "editor", .local, [.str "Doc.Read.a"], .null⟩]

/-- The guard that demands reading and writing is made and denies, and it lets the same users pass
when its values come in another order and more than once. -/
theorem Guard.faults_show_when_made_editor :
    ∃ g, make ⟨.resource, .within .local⟩ [.str "Doc.Read.a", .str "Doc.Write"] = .ok g ∧
      (∃ f, g.run editorAuthorization = .error f ∧ f.kind = .permissionDenied ∧
        f.details = .obj [("required", .arr [.str "Doc.Read.a", .str "Doc.Write"]),
          ("kind", .str "local permissions")]) ∧
      ∃ other, make ⟨.resource, .within .local⟩
          [.str "Doc.Write", .str "Doc.Read.a", .str "Doc.Write"] = .ok other ∧
        ∀ a : Authorization, other.run a = .ok () ↔ g.run a = .ok () := by
  have made : make ⟨.resource, .within .local⟩ [.str "Doc.Read.a", .str "Doc.Write"] =
      .ok ⟨⟨.resource, .within .local⟩, [.str "Doc.Read.a", .str "Doc.Write"]⟩ := rfl
  obtain ⟨verdict, reordered⟩ := (faults_show_when_made _ _).2.1 _ made
  obtain ⟨kind, -, details⟩ := (verdict editorAuthorization).2 _ rfl
  refine ⟨_, made, ⟨_, rfl, kind, details⟩, reordered _ fun value => ?_⟩
  simp only [List.mem_cons, List.not_mem_nil, or_false]
  rw [or_left_comm, or_self]

/-- The direct walk stops before the malformed value, or at it. -/
example :
    editorAuthorization.holds ⟨.resource, .anywhere⟩ [.str "Doc.Write", .str "Doc"] = .ok false ∧
    editorAuthorization.holds ⟨.resource, .anywhere⟩ [.str "Doc.Read.a", .str "Doc"] =
      .error ⟨.str "Doc", .missingAction⟩ := ⟨rfl, rfl⟩

end AccessControl
