import AccessControl.Json.Display

/-!
# Fixed vocabularies

Some values are words of a small fixed list. A value outside its list is reported with the name of
the list.
-/
namespace AccessControl

/-- The lists of words that a value can be outside of. -/
inductive Vocabulary
  | contexts
  | actions
  | grantKinds
  deriving DecidableEq, Repr

/-- The name under which a list of words is reported. -/
def Vocabulary.name : Vocabulary → String
  | .contexts => "RoleContext"
  | .actions => "PermissionAction"
  | .grantKinds => "GrantKind"

/-- A value that is none of the words of a list. -/
structure UnknownWord where
  vocabulary : Vocabulary
  value : Json
  deriving DecidableEq, Repr

/-- The message about the value. -/
def UnknownWord.message (e : UnknownWord) : String :=
  e.value.display ++ " is not a valid " ++ e.vocabulary.name

/-- The word of a list that a value spells, `find?` being the list. -/
def readWord {α : Type} (vocabulary : Vocabulary) (find? : String → Option α) (value : Json) :
    Except UnknownWord α :=
  match value with
  | .str word =>
    match find? word with
    | some found => .ok found
    | none => .error ⟨vocabulary, value⟩
  | value => .error ⟨vocabulary, value⟩

theorem readWord_eq_ok_iff {α : Type} {vocabulary : Vocabulary} {find? : String → Option α}
    {value : Json} {found : α} :
    readWord vocabulary find? value = .ok found ↔
      ∃ word, value = .str word ∧ find? word = some found := by
  cases value with
  | str word => cases known : find? word <;> simp [readWord, known]
  | _ => simp [readWord]

theorem readWord_eq_error_iff {α : Type} {vocabulary : Vocabulary} {find? : String → Option α}
    {value : Json} {e : UnknownWord} :
    readWord vocabulary find? value = .error e ↔
      (∀ word, value = .str word → find? word = none) ∧ e = ⟨vocabulary, value⟩ := by
  cases value with
  | str word => cases known : find? word <;> simp [readWord, known, eq_comm]
  | _ => simp [readWord, eq_comm]

end AccessControl
