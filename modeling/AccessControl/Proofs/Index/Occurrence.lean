import Mathlib.Data.List.Basic

/-!
# First occurrences

The order in which the values of a list are first met is that of the list without its repetitions.
It is kept by all that is done to every value alike: by filters (`eraseDups_filter`), by maps that may
pass values over (`eraseDups_filterMap`) and by joins (`eraseDups_append_congr`).
-/
namespace AccessControl

variable {α β : Type} [BEq α] [LawfulBEq α] [BEq β] [LawfulBEq β]

/-- Keeping first occurrences commutes with filtering. -/
theorem eraseDups_filter (keep : α → Bool) :
    ∀ values : List α, (values.filter keep).eraseDups = values.eraseDups.filter keep
  | [] => rfl
  | value :: rest => by
    have shorter : (rest.filter fun v => !v == value).length < rest.length + 1 :=
      Nat.lt_succ_of_le (List.length_filter_le _ _)
    have ih := eraseDups_filter keep (rest.filter fun v => !v == value)
    rw [List.filter_filter] at ih
    by_cases kept : keep value = true
    · rw [List.filter_cons_of_pos kept, List.eraseDups_cons, List.eraseDups_cons,
        List.filter_cons_of_pos kept, ← ih, List.filter_filter]
      simp only [Bool.and_comm]
    · have same : (rest.filter fun v => keep v && !v == value) = rest.filter keep := by
        apply List.filter_congr
        intro v _
        by_cases equal : v = value
        · simp [equal, kept]
        · simp [equal]
      rw [List.filter_cons_of_neg kept, List.eraseDups_cons, List.filter_cons_of_neg kept, ← ih,
        same]
termination_by values => values.length

/-- Repetitions may be taken out before values are mapped as well as after it. -/
theorem eraseDups_filterMap (f : α → Option β) :
    ∀ values : List α, (values.eraseDups.filterMap f).eraseDups = (values.filterMap f).eraseDups
  | [] => rfl
  | value :: rest => by
    have shorter : (rest.filter fun v => !v == value).length < rest.length + 1 :=
      Nat.lt_succ_of_le (List.length_filter_le _ _)
    have ih := eraseDups_filterMap f (rest.filter fun v => !v == value)
    rw [List.filterMap_filter] at ih
    rw [List.eraseDups_cons]
    -- a value that is mapped to nothing is not missed; the image of another one comes first anyway
    cases image : f value with
    | none =>
      rw [List.filterMap_cons_none image, List.filterMap_cons_none image, ih]
      congr 1
      apply List.filterMap_congr
      intro v _
      by_cases equal : v = value
      · simp [equal, image]
      · simp [equal]
    | some b =>
      rw [List.filterMap_cons_some image, List.filterMap_cons_some image, List.eraseDups_cons,
        List.eraseDups_cons, eraseDups_filter, ih, ← eraseDups_filter, List.filter_filterMap,
        List.filter_filterMap]
      congr 2
      apply List.filterMap_congr
      intro v _
      by_cases equal : v = value
      · simp [equal, image, Option.filter]
      · simp [equal]
termination_by values => values.length

variable {values others more rest : List α}

theorem mem_iff_of_eraseDups (same : values.eraseDups = others.eraseDups) (value : α) :
    value ∈ values ↔ value ∈ others := by
  rw [← List.mem_eraseDups, same, List.mem_eraseDups]

theorem eraseDups_filterMap_congr (same : values.eraseDups = others.eraseDups) (f : α → Option β) :
    (values.filterMap f).eraseDups = (others.filterMap f).eraseDups := by
  rw [← eraseDups_filterMap, same, eraseDups_filterMap]

theorem eraseDups_append_congr (same : values.eraseDups = others.eraseDups)
    (same' : more.eraseDups = rest.eraseDups) :
    (values ++ more).eraseDups = (others ++ rest).eraseDups := by
  rw [List.eraseDups_append, List.eraseDups_append, same, List.removeAll, List.removeAll,
    eraseDups_filter, eraseDups_filter, same']
  congr 1
  apply List.filter_congr
  intro v _
  rw [Bool.not_inj_iff, Bool.eq_iff_iff, List.elem_iff, List.elem_iff]
  exact mem_iff_of_eraseDups same v

end AccessControl
