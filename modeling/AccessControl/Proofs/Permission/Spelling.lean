import AccessControl.Permission.Reader
import Mathlib.Data.List.TakeWhile

/-!
# Spelled permissions

A permission spelled with all three segments is read back. The scope must not hold a separator;
of the resource only what stands before its first separator is read.

* `cut_cases`: how characters are cut at their first separator;
* `read_eq_ok_iff_segments`, `read?_eq_toOption`: what a value reads as is told by its segments, and
  the reader of role data accepts what the reader of queries accepts;
* `read_spelling`, `read_text`: the full and the canonical spelling are read back.
-/
namespace AccessControl

theorem Action.ofText?_text (action : Action) : Action.ofText? action.text = some action := by
  cases action <;> rfl

theorem Action.ofText?_eq_some_iff {word : String} {action : Action} :
    Action.ofText? word = some action ↔ word = action.text := by
  constructor
  · intro found
    unfold Action.ofText? at found
    split_ifs at found with read write readWrite
    · exact Option.some.inj found ▸ read
    · exact Option.some.inj found ▸ write
    · exact Option.some.inj found ▸ readWrite
  · rintro rfl
    exact Action.ofText?_text action

theorem Context.ofText?_eq_some_iff {word : String} {c : Context} :
    Context.ofText? word = some c ↔ word = c.text := by
  constructor
  · intro found
    unfold Context.ofText? at found
    split_ifs at found with here there
    · exact Option.some.inj found ▸ here
    · exact Option.some.inj found ▸ there
  · rintro rfl
    cases c <;> rfl

theorem Action.text_ne_empty (action : Action) : action.text ≠ "" := by
  cases action <;> decide

namespace Permission

def DotFree (s : String) : Prop := separator ∉ s.toList

instance (s : String) : Decidable (DotFree s) := inferInstanceAs (Decidable (¬ _ ∈ _))

/-- The spelling with all three segments, the default resource included. -/
def spelling (p : Permission) : String :=
  p.scope ++ String.singleton separator ++ p.action.text ++ String.singleton separator ++ p.resource

/-- What is read of a resource segment: the characters before the first separator. -/
def resourceSegment (s : String) : String := String.ofList (cut s.toList).1

theorem cut_of_not_mem {cs : List Char} (free : separator ∉ cs) : cut cs = (cs, none) := by
  have whole : cs.dropWhile (· ≠ separator) = [] := List.dropWhile_eq_nil_iff.mpr fun c member =>
    decide_eq_true fun same => free (same ▸ member)
  rw [cut, whole]

theorem cut_append_separator {cs : List Char} (free : separator ∉ cs) (rest : List Char) :
    cut (cs ++ separator :: rest) = (cs, some rest) := by
  have kept : ∀ c ∈ cs, decide (c ≠ separator) = true := fun c member =>
    decide_eq_true fun same => free (same ▸ member)
  unfold cut
  rw [List.dropWhile_append_of_pos kept, List.takeWhile_append_of_pos kept]
  simp

/-- Characters hold no separator, or are cut at their first one. -/
theorem cut_cases (cs : List Char) :
    (separator ∉ cs ∧ cut cs = (cs, none)) ∨
      ∃ first rest, separator ∉ first ∧ cs = first ++ separator :: rest ∧
        cut cs = (first, some rest) := by
  by_cases member : separator ∈ cs
  · obtain ⟨first, rest, rfl, free⟩ := List.eq_append_cons_of_mem member
    exact Or.inr ⟨first, rest, free, rfl, cut_append_separator free rest⟩
  · exact Or.inl ⟨member, cut_of_not_mem member⟩

theorem separator_not_mem_cut (cs : List Char) : separator ∉ (cut cs).1 := by
  rcases cut_cases cs with ⟨free, cutUp⟩ | ⟨first, rest, free, -, cutUp⟩
  · rwa [cutUp]
  · rwa [cutUp]

theorem dotFree_ofList_cut (cs : List Char) : DotFree (String.ofList (cut cs).1) := by
  simpa [DotFree] using separator_not_mem_cut cs

theorem dotFree_defaultResource : DotFree defaultResource := by decide

theorem dotFree_segments (spelling : String) :
    DotFree (segments spelling).scope ∧ DotFree (segments spelling).resource := by
  unfold segments
  dsimp only
  -- one case for each number of separators up to two
  split
  · exact ⟨dotFree_ofList_cut _, dotFree_defaultResource⟩
  · split
    · exact ⟨dotFree_ofList_cut _, dotFree_defaultResource⟩
    · exact ⟨dotFree_ofList_cut _, dotFree_ofList_cut _⟩

theorem resourceSegment_of_dotFree {s : String} (free : DotFree s) : resourceSegment s = s := by
  rw [resourceSegment, cut_of_not_mem free, String.ofList_toList]

theorem dotFree_action (action : Action) : DotFree action.text := by
  cases action <;> decide

/-- A value reads as a permission when it is a text with the permission's segments, of which the
scope is not empty. -/
theorem read_eq_ok_iff_segments {value : Json} {p : Permission} :
    read value = .ok p ↔ ∃ s, value = .str s ∧ p.scope ≠ "" ∧
      segments s = ⟨p.scope, p.action.text, p.resource⟩ := by
  constructor
  · intro accepted
    cases value with
    | str s =>
      refine ⟨s, rfl, ?_⟩
      simp only [read] at accepted
      split at accepted
      · cases accepted
      · rename_i named
        split at accepted
        · cases accepted
        · split at accepted
          · cases accepted
          · rename_i action found
            cases accepted
            refine ⟨named, ?_⟩
            rw [← Action.ofText?_eq_some_iff.mp found]
    | _ => cases accepted
  · rintro ⟨s, rfl, named, cutUp⟩
    simp only [read, cutUp, if_neg named, if_neg p.action.text_ne_empty, Action.ofText?_text]

/-- The reader of role data accepts what the reader of queries accepts, and as the same. -/
theorem read?_eq_toOption (value : Json) : read? value = (read value).toOption := by
  cases value with
  | str s =>
    simp only [read?, read]
    cases found : Action.ofText? (segments s).action with
    | none => split_ifs <;> rfl
    | some action =>
      have worded : (segments s).action ≠ "" := by
        rw [Action.ofText?_eq_some_iff.mp found]
        exact action.text_ne_empty
      rw [if_neg worded]
      split_ifs <;> rfl
  | _ => rfl

theorem read?_eq_some_iff {value : Json} {p : Permission} :
    read? value = some p ↔ read value = .ok p := by
  rw [read?_eq_toOption]
  cases read value <;> simp [Except.toOption]

/-- A permission that is read has a scope, and no separator in any segment. -/
theorem dotFree_of_read {value : Json} {p : Permission} (accepted : read value = .ok p) :
    p.scope ≠ "" ∧ DotFree p.scope ∧ DotFree p.resource := by
  obtain ⟨s, rfl, named, cutUp⟩ := read_eq_ok_iff_segments.mp accepted
  have free := dotFree_segments s
  rw [cutUp] at free
  exact ⟨named, free⟩

/-- A value that reads as a query names the scope that it asks about. -/
theorem readScope_of_read {value : Json} {p : Permission} (accepted : read value = .ok p) :
    readScope value = .ok p.scope := by
  obtain ⟨s, rfl, named, cutUp⟩ := read_eq_ok_iff_segments.mp accepted
  simp only [readScope, cutUp, if_neg named]

/-- A scope that is read is a segment. -/
theorem dotFree_of_readScope {value : Json} {scope : String}
    (read : readScope value = .ok scope) : scope ≠ "" ∧ DotFree scope := by
  cases value with
  | str s =>
    simp only [readScope] at read
    split at read
    · cases read
    · rename_i named
      cases read
      exact ⟨named, (dotFree_segments s).1⟩
  | _ => cases read

theorem segments_spelling {p : Permission} (free : DotFree p.scope) :
    segments p.spelling = ⟨p.scope, p.action.text, resourceSegment p.resource⟩ := by
  have listed : p.spelling.toList =
      p.scope.toList ++ separator :: (p.action.text.toList ++ separator :: p.resource.toList) := by
    simp [spelling, String.toList_append]
  have first := cut_append_separator free (p.action.text.toList ++ separator :: p.resource.toList)
  have second := cut_append_separator (dotFree_action p.action) p.resource.toList
  simp only [segments, listed, first, second, String.ofList_toList]
  rfl

/-- A spelled permission with a scope is accepted as a grant. -/
theorem read?_spelling {p : Permission} (named : p.scope ≠ "") (free : DotFree p.scope) :
    read? (.str p.spelling) = some { p with resource := resourceSegment p.resource } :=
  read?_eq_some_iff.mpr (read_eq_ok_iff_segments.mpr ⟨_, rfl, named, segments_spelling free⟩)

/-- A spelling without a scope is not accepted. -/
theorem read?_spelling_of_scope_empty {p : Permission} (unnamed : p.scope = "") :
    read? (.str p.spelling) = none := by
  have free : DotFree p.scope := by rw [unnamed]; decide
  simp only [read?, segments_spelling free, Action.ofText?_text, if_pos unnamed]

/-- A spelled permission is read back as a query. -/
theorem read_spelling {p : Permission} (named : p.scope ≠ "") (free : DotFree p.scope)
    (plain : DotFree p.resource) : read (.str p.spelling) = .ok p := by
  have cutUp := segments_spelling free
  rw [resourceSegment_of_dotFree plain] at cutUp
  exact read_eq_ok_iff_segments.mpr ⟨_, rfl, named, cutUp⟩

/-- The canonical spelling is read back as a query, the default resource being left out there. -/
theorem read_text {p : Permission} (named : p.scope ≠ "") (free : DotFree p.scope)
    (plain : DotFree p.resource) : read (.str p.text) = .ok p := by
  by_cases resourceless : p.resource = defaultResource
  · have listed : p.text.toList = p.scope.toList ++ separator :: p.action.text.toList := by
      simp [text, isDefault, resourceless, String.toList_append]
    have first := cut_append_separator free p.action.text.toList
    have second := cut_of_not_mem (dotFree_action p.action)
    have cutUp : segments p.text = ⟨p.scope, p.action.text, p.resource⟩ := by
      simp only [segments, listed, first, second, String.ofList_toList, resourceless]
    exact read_eq_ok_iff_segments.mpr ⟨_, rfl, named, cutUp⟩
  · have full : p.text = p.spelling := by
      simp [text, isDefault, resourceless, spelling]
    rw [full]
    exact read_spelling named free plain

end Permission

end AccessControl
