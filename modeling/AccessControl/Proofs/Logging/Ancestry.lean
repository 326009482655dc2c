import AccessControl.Logging.Emission
import Mathlib.Data.List.Infix

/-!
# Names above a logger

Which loggers the search dot by dot finds above a name. Between two dots in a row it misses one, so it
finds the known loggers that the name goes on from when no two dots are in a row.

* `mem_loggersAbove_iff`: the loggers found are the known ones whose name ends in front of a dot;
* `mem_self_or_above_iff`: a known logger is the one itself or found above it exactly when the name
  `IsWithin` its name.
-/
namespace AccessControl

def IsDotted (name : String) : Prop := ¬ ['.', '.'] <:+: name.toList

instance (name : String) : Decidable (IsDotted name) := inferInstanceAs (Decidable (¬ _))

/-- The name is the other one, or goes on from it behind a dot. -/
def IsWithin (name above : String) : Prop :=
  name = above ∨ above.toList ++ ['.'] <+: name.toList

instance (name above : String) : Decidable (IsWithin name above) :=
  inferInstanceAs (Decidable (_ ∨ _))

/-- Names that merely have a start in common are apart. -/
example : IsWithin "httpx.a.b" "httpx" ∧ ¬ IsWithin "httpx2" "httpx" := by decide

theorem isWithin_iff {name above : String} :
    IsWithin name above ↔ above.toList ++ ['.'] <+: name.toList ++ ['.'] := by
  rw [IsWithin, List.prefix_concat_iff, List.append_left_inj, String.toList_inj, eq_comm]

/-- The character in front of a dot was passed over in vain when it is none. -/
theorem loggersAbove_passed {known : List String} {cs : List Char} (solid : cs.head? ≠ some '.') :
    loggersAbove known true cs = loggersAbove known false cs := by
  cases cs with
  | nil => rfl
  | cons c above =>
    have other : c ≠ '.' := fun same => solid (congrArg some same)
    rw [loggersAbove, loggersAbove, if_neg (fun dot => other dot.1), if_neg (fun dot => other dot.1)]

theorem mem_loggersAbove_iff {known : List String} {cs : List Char}
    (dotted : ¬ ['.', '.'] <:+: cs) {above : String} :
    above ∈ loggersAbove known false cs ↔
      above ∈ known ∧ above ≠ "" ∧ '.' :: above.toList.reverse <:+ cs := by
  -- along the characters from the end, of which each is the one behind the dot that comes next
  induction cs with
  | nil => simp [loggersAbove]
  | cons c rest ih =>
    have later : ¬ ['.', '.'] <:+: rest := fun dots => dotted (List.infix_cons dots)
    specialize ih later
    have front : '.' :: above.toList.reverse = c :: rest ↔
        c = '.' ∧ above = String.ofList rest.reverse := by
      rw [List.cons.injEq, ← String.toList_inj, String.toList_ofList, List.reverse_eq_iff, eq_comm]
    rw [List.suffix_cons_iff, front]
    by_cases dot : c = '.' ∧ rest ≠ []
    · have solid : rest.head? ≠ some '.' := by
        intro next
        obtain ⟨deeper, rfl⟩ := List.head?_eq_some_iff.mp next
        exact dotted (dot.1 ▸ (List.prefix_append ['.', '.'] deeper).isInfix)
      rw [loggersAbove, if_pos (by simpa using dot), loggersAbove_passed solid, and_iff_right dot.1]
      dsimp only
      split_ifs with listed
      · have name_ne : String.ofList rest.reverse ≠ "" := by simpa using dot.2
        rw [List.mem_cons, ih]
        constructor
        · rintro (rfl | ⟨known, present, deeper⟩)
          · exact ⟨List.contains_iff_mem.mp listed, name_ne, .inl rfl⟩
          · exact ⟨known, present, .inr deeper⟩
        · rintro ⟨known, present, here | deeper⟩
          · exact .inl here
          · exact .inr ⟨known, present, deeper⟩
      · rw [ih]
        refine and_congr_right fun found => and_congr_right fun _ => (or_iff_right ?_).symm
        rintro rfl
        exact listed (List.contains_iff_mem.mpr found)
    · rw [loggersAbove, if_neg (by simpa using dot), ih]
      refine and_congr_right fun _ => and_congr_right fun present => (or_iff_right ?_).symm
      rintro ⟨rfl, rfl⟩
      refine dot ⟨rfl, fun nothing => present ?_⟩
      rw [nothing]
      rfl

/-! ### A logger and those above it -/

theorem mem_self_or_above_iff {known : List String} {name above : String} (dotted : IsDotted name)
    (listed : above ∈ known) (named : above ≠ "") :
    above ∈ name :: loggersAbove known false name.toList.reverse ↔ IsWithin name above := by
  have backward : ¬ ['.', '.'] <:+: name.toList.reverse := by
    rw [← List.reverse_infix, List.reverse_reverse]
    exact dotted
  rw [List.mem_cons, mem_loggersAbove_iff backward, and_iff_right listed, and_iff_right named,
    ← List.reverse_prefix, List.reverse_cons, List.reverse_reverse, List.reverse_reverse, IsWithin,
    eq_comm]

end AccessControl
