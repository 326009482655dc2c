import AccessControl.Proofs.Permission.Spelling
import AccessControl.Query

/-!
# The grammar of permissions

Queries, role data and questions about contexts are read by three readers, each with its own order of
tests. Here is the language that they share, said without cutting texts: a `Sentence` is a scope, an
action and what may follow them, and its `text` puts separators between them.

* `Sentence.read_text`, `exists_sentence_of_read`: a value reads as a permission when it is the text
  of a sentence of that permission, and not otherwise;
* `Sentence.text_injective`: no text is that of two sentences;
* `pieces`, `segments_eq_pieces`: the readers look at what stands between the separators of a text;
* `Malformation.AppliesTo` says of each fault, apart from the others, when a value has it, and
  `read_eq_error_iff` that the first one is reported;
* `readers_agree`: all of it, and what it means for the questions put to an index.
-/
namespace AccessControl

namespace Permission

/-- What may follow the action of a permission: nothing, a resource, or a resource and more that is
ignored. -/
inductive Ending
  | absent
  | single (resource : String)
  | longer (resource ignored : String)
  deriving DecidableEq

namespace Ending

/-- The resource that is meant: the default one where none is named. -/
def resource : Ending → String
  | absent => defaultResource
  | single resource => resource
  | longer resource _ => resource

/-- The spelling, the separators in front included. -/
def text : Ending → String
  | absent => ""
  | single resource => String.singleton separator ++ resource
  | longer resource ignored =>
    String.singleton separator ++ resource ++ String.singleton separator ++ ignored

def tail : Ending → Option (List Char)
  | absent => none
  | single resource => some resource.toList
  | longer resource ignored => some (resource.toList ++ separator :: ignored.toList)

def ofTail : Option (List Char) → Ending
  | none => absent
  | some cs =>
    match cut cs with
    | (resource, none) => single (String.ofList resource)
    | (resource, some ignored) => longer (String.ofList resource) (String.ofList ignored)

theorem ofTail_tail {ending : Ending} (free : DotFree ending.resource) :
    ofTail ending.tail = ending := by
  cases ending with
  | absent => rfl
  | single resource =>
    have cutUp : cut resource.toList = (resource.toList, none) := cut_of_not_mem free
    simp only [tail, ofTail, cutUp, String.ofList_toList]
  | longer resource ignored =>
    have cutUp := cut_append_separator (show separator ∉ resource.toList from free) ignored.toList
    simp only [tail, ofTail, cutUp, String.ofList_toList]

theorem toList_text (ending : Ending) :
    ending.text.toList = match ending.tail with
      | none => []
      | some cs => separator :: cs := by
  cases ending <;> simp [text, tail, String.toList_append]

theorem tail_ofTail (rest : Option (List Char)) : (ofTail rest).tail = rest := by
  cases rest with
  | none => rfl
  | some cs =>
    rcases cut_cases cs with ⟨-, cutUp⟩ | ⟨first, behind, -, same, cutUp⟩
    · simp only [ofTail, cutUp, tail, String.toList_ofList]
    · simp only [ofTail, cutUp, tail, String.toList_ofList]
      rw [same]

/-- What is cut off behind an action is what follows it. -/
theorem cut_action (action : Action) (ending : Ending) :
    cut (action.text.toList ++ ending.text.toList) = (action.text.toList, ending.tail) := by
  rw [toList_text]
  cases ending.tail with
  | none => rw [List.append_nil, cut_of_not_mem (dotFree_action action)]
  | some cs => exact cut_append_separator (dotFree_action action) cs

end Ending

/-- A permission as it may be spelled: a scope, an action and what may follow. -/
structure Sentence where
  scope : String
  action : Action
  ending : Ending
  named : scope ≠ ""
  scope_free : DotFree scope
  resource_free : DotFree ending.resource

namespace Sentence

def text (w : Sentence) : String :=
  w.scope ++ String.singleton separator ++ w.action.text ++ w.ending.text

def permission (w : Sentence) : Permission := ⟨w.scope, w.action, w.ending.resource⟩

theorem cut_text (w : Sentence) :
    cut w.text.toList = (w.scope.toList, some (w.action.text.toList ++ w.ending.text.toList)) := by
  have listed : w.text.toList =
      w.scope.toList ++ separator :: (w.action.text.toList ++ w.ending.text.toList) := by
    simp [text, String.toList_append]
  rw [listed, cut_append_separator w.scope_free]

/-- Grammar is unambiguous: the text tells the scope, the action and what follows. -/
theorem text_injective : Function.Injective text := by
  intro w v same
  have first := congrArg (fun s => cut s.toList) same
  simp only [cut_text, Prod.mk.injEq, Option.some.injEq] at first
  have second := congrArg cut first.2
  rw [Ending.cut_action, Ending.cut_action, Prod.mk.injEq] at second
  have scope : w.scope = v.scope := String.toList_inj.mp first.1
  have action : w.action = v.action := by
    have known := congrArg Action.ofText? (String.toList_inj.mp second.1)
    rwa [Action.ofText?_text, Action.ofText?_text, Option.some.injEq] at known
  have ending : w.ending = v.ending := by
    rw [← Ending.ofTail_tail w.resource_free, second.2, Ending.ofTail_tail v.resource_free]
  cases w
  cases v
  cases scope
  cases action
  cases ending
  rfl

end Sentence

/-- The segments of a text whose scope is followed by something. -/
theorem segments_of_cut {s : String} {scope rest : List Char}
    (cutUp : cut s.toList = (scope, some rest)) :
    segments s = ⟨String.ofList scope, String.ofList (cut rest).1,
      (Ending.ofTail (cut rest).2).resource⟩ := by
  simp only [segments, cutUp]
  cases (cut rest).2 with
  | none => rfl
  | some cs =>
    simp only [Ending.ofTail]
    rcases cut cs with ⟨resource, _ | ignored⟩ <;> rfl

/-- Soundness of the grammar: sentences are read. -/
theorem Sentence.read_text (w : Sentence) : read (.str w.text) = .ok w.permission := by
  refine read_eq_ok_iff_segments.mpr ⟨_, rfl, w.named, ?_⟩
  rw [segments_of_cut w.cut_text, Ending.cut_action, Ending.ofTail_tail w.resource_free,
    String.ofList_toList, String.ofList_toList]
  rfl

/-- Completeness of the grammar: what is read is a sentence. -/
theorem exists_sentence_of_read {value : Json} {p : Permission} (accepted : read value = .ok p) :
    ∃ w : Sentence, value = .str w.text ∧ w.permission = p := by
  obtain ⟨s, rfl, named, cutUp⟩ := read_eq_ok_iff_segments.mp accepted
  rcases cut_cases s.toList with ⟨-, whole⟩ | ⟨scope, rest, free, listed, split⟩
  · -- without a separator there is no action
    have missing : (segments s).action = "" := by simp only [segments, whole]
    rw [cutUp] at missing
    exact absurd missing p.action.text_ne_empty
  · rw [segments_of_cut split] at cutUp
    injection cutUp with sameScope sameAction sameResource
    have behind : rest = p.action.text.toList ++ (Ending.ofTail (cut rest).2).text.toList := by
      rw [Ending.toList_text, Ending.tail_ofTail, ← sameAction, String.toList_ofList]
      rcases cut_cases rest with ⟨-, last⟩ | ⟨_, _, -, joined, more⟩
      · rw [last, List.append_nil]
      · rw [more]
        exact joined
    have spelled : s.toList = p.scope.toList ++
        separator :: (p.action.text.toList ++ (Ending.ofTail (cut rest).2).text.toList) := by
      rw [listed, ← sameScope, String.toList_ofList, ← behind]
    have scopeFree : DotFree p.scope := by
      rw [← sameScope, DotFree, String.toList_ofList]
      exact free
    have resourceFree : DotFree (Ending.ofTail (cut rest).2).resource := by
      rw [sameResource]
      exact (dotFree_of_read accepted).2.2
    refine ⟨⟨p.scope, p.action, Ending.ofTail (cut rest).2, named, scopeFree, resourceFree⟩, ?_, ?_⟩
    · rw [← String.ofList_toList (s := s), spelled]
      simp [Sentence.text, ← String.toList_inj, String.toList_append]
    · rw [Sentence.permission, sameResource]

/-- What stands between the separators of a text. -/
def pieces (s : String) : List String := (s.toList.splitOn separator).map String.ofList

theorem splitOn_eq_cut (cs : List Char) :
    cs.splitOn separator = (cut cs).1 :: match (cut cs).2 with
      | none => []
      | some rest => rest.splitOn separator := by
  rcases cut_cases cs with ⟨free, cutUp⟩ | ⟨first, rest, free, joined, cutUp⟩
  · rw [cutUp, List.splitOn_eq_singleton free]
  · rw [cutUp, joined, List.splitOn_append_cons_self_of_not_mem free]

/-- The readers look at the first three pieces, an action that is missing being empty and a resource
that is missing the default one. -/
theorem segments_eq_pieces (s : String) :
    segments s = ⟨(pieces s)[0]?.getD "", (pieces s)[1]?.getD "",
      (pieces s)[2]?.getD defaultResource⟩ := by
  unfold segments pieces
  rw [splitOn_eq_cut s.toList]
  rcases cut s.toList with ⟨scope, _ | rest⟩
  · rfl
  · dsimp only
    rw [splitOn_eq_cut rest]
    rcases cut rest with ⟨action, _ | more⟩
    · rfl
    · dsimp only
      rw [splitOn_eq_cut more]
      rfl

theorem pieces_ne_nil (s : String) : pieces s ≠ [] := by
  simp [pieces, List.splitOn_ne_nil]

/-- The first piece is what is read as the scope. -/
theorem head_pieces (s : String) : (pieces s)[0]? = some (segments s).scope := by
  rw [segments_eq_pieces]
  cases cutUp : pieces s with
  | nil => exact absurd cutUp (pieces_ne_nil s)
  | cons first rest => rfl

end Permission

namespace Malformation

/-- The fault is one of the value, whatever else is wrong with it. -/
def AppliesTo (value : Json) : Malformation → Prop
  | notText => ∀ s, value ≠ .str s
  | missingScope => ∃ s, value = .str s ∧ (Permission.pieces s)[0]? = some ""
  | missingAction => ∃ s, value = .str s ∧ (Permission.pieces s)[1]?.getD "" = ""
  | unknownAction token => ∃ s, value = .str s ∧ (Permission.pieces s)[1]? = some token ∧
      ∀ action : Action, token ≠ action.text

/-- The order in which faults are looked for. -/
def rank : Malformation → Nat
  | notText => 0
  | missingScope => 1
  | missingAction => 2
  | unknownAction _ => 3

def IsFirst (value : Json) (fault : Malformation) : Prop :=
  fault.AppliesTo value ∧ ∀ other : Malformation, other.rank < fault.rank → ¬ other.AppliesTo value

theorem missingScope_appliesTo_iff (s : String) :
    missingScope.AppliesTo (.str s) ↔ (Permission.segments s).scope = "" := by
  simp [AppliesTo, Permission.head_pieces]

theorem missingAction_appliesTo_iff (s : String) :
    missingAction.AppliesTo (.str s) ↔ (Permission.segments s).action = "" := by
  simp [AppliesTo, Permission.segments_eq_pieces]

theorem unknownAction_appliesTo_iff {s : String} (present : (Permission.segments s).action ≠ "")
    (token : String) :
    (unknownAction token).AppliesTo (.str s) ↔
      (Permission.segments s).action = token ∧ Action.ofText? token = none := by
  rw [Permission.segments_eq_pieces] at present ⊢
  have unknown : (∀ action : Action, token ≠ action.text) ↔ Action.ofText? token = none := by
    simp only [Option.eq_none_iff_forall_ne_some, ne_eq, Action.ofText?_eq_some_iff]
  simp only [AppliesTo, Json.str.injEq, exists_eq_left', unknown]
  cases second : (Permission.pieces s)[1]? with
  | none => simp [second] at present
  | some word => simp

theorem not_notText_appliesTo (s : String) : ¬ notText.AppliesTo (.str s) :=
  fun other => other s rfl

/-- Of a value that is no text this is the first fault. -/
theorem isFirst_iff_of_not_text {value : Json} (other : ∀ s, value ≠ .str s)
    (fault : Malformation) : fault.IsFirst value ↔ fault = notText := by
  constructor
  · rintro ⟨applies, -⟩
    cases fault with
    | notText => rfl
    | missingScope | missingAction | unknownAction =>
      obtain ⟨s, isText, -⟩ := applies
      exact absurd isText (other s)
  · rintro rfl
    exact ⟨other, fun _ lower => absurd lower (Nat.not_lt_zero _)⟩

/-- The first fault of a text, told by its segments: one case for each fault. -/
theorem isFirst_text_iff (s : String) (fault : Malformation) :
    fault.IsFirst (.str s) ↔ match fault with
      | notText => False
      | missingScope => (Permission.segments s).scope = ""
      | missingAction =>
        (Permission.segments s).scope ≠ "" ∧ (Permission.segments s).action = ""
      | unknownAction token => (Permission.segments s).scope ≠ "" ∧
        (Permission.segments s).action ≠ "" ∧ (Permission.segments s).action = token ∧
        Action.ofText? token = none := by
  have noScope := missingScope_appliesTo_iff s
  have noAction := missingAction_appliesTo_iff s
  cases fault with
  | notText => exact iff_of_false (fun first => not_notText_appliesTo s first.1) id
  | missingScope =>
    refine ⟨fun first => noScope.mp first.1, fun unnamed => ⟨noScope.mpr unnamed, ?_⟩⟩
    intro other lower
    cases other with
    | notText => exact not_notText_appliesTo s
    | missingScope | missingAction | unknownAction => simp [rank] at lower
  | missingAction =>
    constructor
    · intro first
      exact ⟨fun unnamed => first.2 missingScope (by decide) (noScope.mpr unnamed),
        noAction.mp first.1⟩
    · rintro ⟨named, missing⟩
      refine ⟨noAction.mpr missing, fun other lower => ?_⟩
      cases other with
      | notText => exact not_notText_appliesTo s
      | missingScope => exact fun unnamed => named (noScope.mp unnamed)
      | missingAction | unknownAction => simp [rank] at lower
  | unknownAction token =>
    constructor
    · intro first
      have present : (Permission.segments s).action ≠ "" := fun missing =>
        first.2 missingAction (by simp [rank]) (noAction.mpr missing)
      exact ⟨fun unnamed => first.2 missingScope (by simp [rank]) (noScope.mpr unnamed), present,
        (unknownAction_appliesTo_iff present token).mp first.1⟩
    · rintro ⟨named, present, unknown⟩
      refine ⟨(unknownAction_appliesTo_iff present token).mpr unknown, fun other lower => ?_⟩
      cases other with
      | notText => exact not_notText_appliesTo s
      | missingScope => exact fun unnamed => named (noScope.mp unnamed)
      | missingAction => exact fun missing => present (noAction.mp missing)
      | unknownAction => simp [rank] at lower

end Malformation

namespace Permission

/-- A value that is no permission is reported with the first fault that it has. -/
theorem read_eq_error_iff (value : Json) (e : MalformedPermission) :
    read value = .error e ↔ e.permission = value ∧ e.reason.IsFirst value := by
  cases value with
  | str s =>
    constructor
    · intro refused
      simp only [read] at refused
      -- one branch for each fault of a text, in the order in which they are looked for
      split at refused
      · rename_i unnamed
        cases refused
        exact ⟨rfl, (Malformation.isFirst_text_iff s _).mpr unnamed⟩
      · rename_i named
        split at refused
        · rename_i missing
          cases refused
          exact ⟨rfl, (Malformation.isFirst_text_iff s _).mpr ⟨named, missing⟩⟩
        · rename_i present
          split at refused
          · rename_i unknown
            cases refused
            exact ⟨rfl, (Malformation.isFirst_text_iff s _).mpr ⟨named, present, rfl, unknown⟩⟩
          · cases refused
    · obtain ⟨permission, reason⟩ := e
      rintro ⟨rfl, first⟩
      rw [Malformation.isFirst_text_iff] at first
      cases reason with
      | notText => exact first.elim
      | missingScope => simp only [read, if_pos first]
      | missingAction => simp only [read, if_neg first.1, if_pos first.2]
      | unknownAction token =>
        obtain ⟨named, present, rfl, unknown⟩ := first
        simp only [read, if_neg named, if_neg present, unknown]
  | _ =>
    obtain ⟨permission, reason⟩ := e
    rw [Malformation.isFirst_iff_of_not_text (by simp)]
    simp [read, eq_comm]

/-- The scope of a text is its first piece, which has to be there. -/
theorem readScope_eq_ok_iff (value : Json) (scope : String) :
    readScope value = .ok scope ↔
      ∃ s, value = .str s ∧ (pieces s)[0]? = some scope ∧ scope ≠ "" := by
  cases value with
  | str s =>
    simp only [readScope, Json.str.injEq, exists_eq_left', head_pieces, Option.some.injEq]
    split
    · rename_i unnamed
      refine iff_of_false ?_ ?_
      · intro accepted
        cases accepted
      · rintro ⟨rfl, named⟩
        exact named unnamed
    · rename_i named
      rw [Except.ok.injEq]
      refine ⟨?_, And.left⟩
      rintro rfl
      exact ⟨rfl, named⟩
  | _ => simp [readScope]

end Permission

namespace Index

/-- A question fails where its value is no permission, and with that failure. -/
theorem query_eq_error_iff (i : Index) (check : Check) (value : Json) (e : MalformedPermission) :
    i.query check value = .error e ↔ Permission.read value = .error e := by
  rw [query]
  cases Permission.read value <;> simp [Except.map]

theorem exists_query_eq_ok_iff (i : Index) (check : Check) (value : Json) :
    (∃ answer, i.query check value = .ok answer) ↔ ∃ p, Permission.read value = .ok p := by
  rw [query]
  cases Permission.read value <;> simp [Except.map]

theorem queryContext_eq_error_iff (i : Index) (value : Json) (e : MalformedPermission) :
    i.queryContext value = .error e ↔ Permission.readScope value = .error e := by
  rw [queryContext]
  cases Permission.readScope value <;> simp [Except.map]

theorem exists_queryContext_eq_ok_iff (i : Index) (value : Json) :
    (∃ found, i.queryContext value = .ok found) ↔ ∃ scope, Permission.readScope value = .ok scope := by
  rw [queryContext]
  cases Permission.readScope value <;> simp [Except.map]

end Index

/-- The grammar of permissions, and that all readers keep to it. A value reads as a permission when it
is the text of a sentence of the permission, and no text is that of two; any other value is reported
with the first fault that it has. The reader of role data accepts the same values as the same
permissions. The scope alone is read where the first piece of a text is not empty, and is that of the
permission where there is one. So a question to an index, of any of the six kinds, fails with the
fault of its value or has an answer, and the one about contexts fails with the fault of the scope. -/
theorem Permission.readers_agree :
    ((∀ value p, read value = .ok p ↔ ∃ w : Sentence, value = .str w.text ∧ w.permission = p) ∧
      Function.Injective Sentence.text ∧
      ∀ value e, read value = .error e ↔ e.permission = value ∧ e.reason.IsFirst value) ∧
    (∀ value, read? value = (read value).toOption) ∧
    ((∀ value scope, readScope value = .ok scope ↔
        ∃ s, value = .str s ∧ (pieces s)[0]? = some scope ∧ scope ≠ "") ∧
      ∀ value p, read value = .ok p → readScope value = .ok p.scope) ∧
    ∀ (i : Index) (value : Json),
      (∀ check,
        (∀ e, i.query check value = .error e ↔ read value = .error e) ∧
        ((∃ answer, i.query check value = .ok answer) ↔ ∃ p, read value = .ok p)) ∧
      (∀ e, i.queryContext value = .error e ↔ readScope value = .error e) ∧
      ((∃ found, i.queryContext value = .ok found) ↔ ∃ scope, readScope value = .ok scope) := by
  refine ⟨⟨fun value p => ⟨exists_sentence_of_read, ?_⟩, Sentence.text_injective, read_eq_error_iff⟩,
    read?_eq_toOption, ⟨readScope_eq_ok_iff, fun _ _ => readScope_of_read⟩, fun i value =>
    ⟨fun check => ⟨i.query_eq_error_iff check value, i.exists_query_eq_ok_iff check value⟩,
      i.queryContext_eq_error_iff value, i.exists_queryContext_eq_ok_iff value⟩⟩
  rintro ⟨w, rfl, rfl⟩
  exact w.read_text

/-- A text with four segments is read without the last. -/
theorem readers_agree_longer :
    Permission.read (.str "Doc.ReadWrite..old.draft") = .ok ⟨"Doc", .readWrite, ""⟩ ∧
    Permission.readScope (.str "Doc.ReadWrite..old.draft") = .ok "Doc" := by
  have spelled : "Doc.ReadWrite..old.draft" = Permission.Sentence.text
      ⟨"Doc", .readWrite, .longer "" "old.draft", by decide, by decide, by decide⟩ := by decide
  have read : Permission.read (.str "Doc.ReadWrite..old.draft") = .ok ⟨"Doc", .readWrite, ""⟩ :=
    (Permission.readers_agree.1.1 _ _).mpr ⟨_, congrArg Json.str spelled, rfl⟩
  exact ⟨read, Permission.readers_agree.2.2.1.2 _ _ read⟩

end AccessControl
