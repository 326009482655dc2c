import AccessControl.Json.Depth
import AccessControl.Proofs.Json.Scalars

/-!
# Reading back values

A value that is written without blanks is read back as it was, members in their order included, when
its text says all there is to it (`Json.isFloatFree`, `Json.isRegular`) and the reader takes its
digits and its depth. The proof follows the value: `readValue_write` has one case for each kind of
value, and items and members are read one by one.
-/
namespace AccessControl.Json

mutual

def isFloatFree : Json → Bool
  | .float _ => false
  | .arr items => allFloatFree items
  | .obj members => membersFloatFree members
  | _ => true

def allFloatFree : List Json → Bool
  | [] => true
  | item :: rest => item.isFloatFree && allFloatFree rest

def membersFloatFree : List (String × Json) → Bool
  | [] => true
  | (_, value) :: rest => value.isFloatFree && membersFloatFree rest

end

mutual

/-- What every value is that was read from a text: an object has a key only once, and the halves of a
surrogate pair do not stand side by side. -/
def isRegular : Json → Bool
  | .str text => decide (Text.IsJoined text)
  | .arr items => allRegular items
  | .obj members => decide (members.map Prod.fst).Nodup && membersRegular members
  | _ => true

def allRegular : List Json → Bool
  | [] => true
  | item :: rest => item.isRegular && allRegular rest

def membersRegular : List (String × Json) → Bool
  | [] => true
  | (key, value) :: rest => decide (Text.IsJoined key) && value.isRegular && membersRegular rest

end

/-! ### Marks -/

theorem skipGap_cons {c : Char} (solid : isGap c = false) (rest : List Char) :
    skipGap (c :: rest) = c :: rest :=
  List.dropWhile_cons_of_neg (Bool.eq_false_iff.mp solid)

theorem length_lt_cons (c : Char) (rest : List Char) : rest.length < (c :: rest).length :=
  Nat.lt_succ_self rest.length

theorem nextMark_cons {c : Char} (solid : isGap c = false) (rest : List Char) :
    nextMark (c :: rest) = some ⟨c, rest, length_lt_cons c rest⟩ := by
  unfold nextMark
  split
  · rename_i nothing
    rw [skipGap_cons solid] at nothing
    cases nothing
  · rename_i d tail same
    rw [skipGap_cons solid] at same
    cases same
    rfl

theorem closes_self {mark : Char} (solid : isGap mark = false) (rest : List Char) :
    closes mark (mark :: rest) = some ⟨mark, rest, length_lt_cons mark rest⟩ := by
  rw [closes, nextMark_cons solid, Option.filter_some, if_pos (decide_eq_true rfl)]

theorem closes_of_ne {mark c : Char} (solid : isGap c = false) (other : c ≠ mark)
    (rest : List Char) : closes mark (c :: rest) = none := by
  rw [closes, nextMark_cons solid, Option.filter_some, if_neg (by simpa using other)]

/-- The character starts a value: it is no blank and closes nothing. -/
def Opens (c : Char) : Prop := isGap c = false ∧ c ≠ ']' ∧ c ≠ '\x7d'

instance (c : Char) : Decidable (Opens c) := inferInstanceAs (Decidable (_ ∧ _))

theorem opens_of_isDigit {c : Char} (digit : c.isDigit = true) : Opens c := by
  have other : ∀ d : Char, d.isDigit = false → c ≠ d := fun d => ne_of_isDigit digit
  refine ⟨?_, other ']' (by decide), other '\x7d' (by decide)⟩
  simp [isGap, other ' ' (by decide), other '\t' (by decide), other '\n' (by decide),
    other '\r' (by decide)]

theorem exists_write_eq_cons {v : Json} (floatFree : v.isFloatFree = true) :
    ∃ c cs, write .compact v = c :: cs ∧ Opens c := by
  cases v with
  | null => exact ⟨_, _, rfl, by decide⟩
  | bool value => cases value <;> exact ⟨_, _, rfl, by decide⟩
  | int n =>
    obtain ⟨c, cs, written, rfl | digit⟩ := exists_repr_eq_cons n
    · exact ⟨_, _, by rw [write, written], by decide⟩
    · exact ⟨c, cs, by rw [write, written], opens_of_isDigit digit⟩
  | float => cases floatFree
  | str text => exact ⟨_, _, rfl, by decide⟩
  | arr items => exact ⟨_, _, rfl, by decide⟩
  | obj members => exact ⟨_, _, rfl, by decide⟩

/-! ### Scalars -/

theorem readValue_scalar (most room : Nat) {c : Char} {cs : List Char}
    (other : c ≠ '"' ∧ c ≠ '[' ∧ c ≠ '\x7b') :
    readValue most room (c :: cs) = readScalar most (c :: cs) := by
  rw [readValue]
  · exact fun _ same => absurd (List.cons.inj same).1 other.1
  · exact fun _ same => absurd (List.cons.inj same).1 other.2.1
  · exact fun _ same => absurd (List.cons.inj same).1 other.2.2

theorem readValue_int {most room : Nat} {n : Int} (short : (Nat.toDigits 10 n.natAbs).length ≤ most)
    {rest : List Char} (follows : Follows rest) :
    Yields (readValue most room (write .compact (.int n) ++ rest)) (.int n) rest := by
  have read := readScalar_int short follows
  obtain ⟨c, cs, written, first⟩ := exists_repr_eq_cons n
  have other : c ≠ '"' ∧ c ≠ '[' ∧ c ≠ '\x7b' := by
    obtain rfl | digit := first
    · decide
    · exact ⟨ne_of_isDigit digit (by decide), ne_of_isDigit digit (by decide),
        ne_of_isDigit digit (by decide)⟩
  rw [write]
  rw [written, List.cons_append] at read ⊢
  rwa [readValue_scalar most room other]

/-! ### Keys -/

theorem assign_of_fresh {known : List (String × Json)} {key : String}
    (fresh : key ∉ known.map Prod.fst) (value : Json) :
    assign known key value = known ++ [(key, value)] := by
  induction known with
  | nil => rfl
  | cons entry rest ih =>
    obtain ⟨k, v⟩ := entry
    rw [List.map_cons, List.mem_cons, not_or] at fresh
    rw [assign, if_neg (Ne.symm fresh.1), ih fresh.2, List.cons_append]

theorem lookup_assign_self (members : List (String × Json)) (key : String) (value : Json) :
    (assign members key value).lookup key = some value := by
  induction members with
  | nil => simp [assign]
  | cons entry rest ih =>
    obtain ⟨k, v⟩ := entry
    by_cases same : k = key
    · simp [assign, same]
    · have apart : (key == k) = false := beq_eq_false_iff_ne.mpr (Ne.symm same)
      rw [assign, if_neg same, List.lookup_cons, apart]
      exact ih

theorem lookup_assign_of_ne {key other : String} (differ : other ≠ key)
    (members : List (String × Json)) (value : Json) :
    (assign members key value).lookup other = members.lookup other := by
  induction members with
  | nil => simp [assign, List.lookup_cons, beq_eq_false_iff_ne.mpr differ]
  | cons entry rest ih =>
    obtain ⟨k, v⟩ := entry
    by_cases same : k = key
    · subst same
      simp [assign, List.lookup_cons, beq_eq_false_iff_ne.mpr differ]
    · rw [assign, if_neg same, List.lookup_cons, List.lookup_cons, ih]

theorem fresh_of_nodup {known members : List (String × Json)} {key : String} {value : Json}
    (apart : ((known ++ (key, value) :: members).map Prod.fst).Nodup) : key ∉ known.map Prod.fst := by
  rw [List.map_append, List.map_cons] at apart
  intro again
  exact (List.nodup_append.mp apart).2.2 key again key (List.mem_cons_self ..) rfl

theorem readKey_writeText {key : String} (joined : Text.IsJoined key) (rest : List Char) :
    Yields (readKey (writeText key ++ ':' :: rest)) key rest := by
  have written : writeText key ++ ':' :: rest =
      '"' :: ((Text.codePoints key.toList).flatMap writePoint ++ '"' :: ':' :: rest) := by
    simp [writeText]
  rw [written, readKey]
  obtain ⟨_, read⟩ := readText_writeText
    (((Text.codePoints key.toList).flatMap writePoint ++ '"' :: ':' :: rest).length + 1) joined
    (':' :: rest)
  rw [read]
  simp only [nextMark_cons (show isGap ':' = false by decide), if_true, String.ofList_toList]
  exact ⟨_, rfl⟩

/-! ### Steps -/

section

variable {most room : Nat} {s cs rest : List Char} {c : Char}

theorem readValue_list {items : List Json} (opens : Opens c)
    (read : Yields (readItems most room (c :: cs)) items rest) :
    Yields (readValue most (room + 1) ('[' :: c :: cs)) (.arr items) rest := by
  have ahead : Yields (readItems most room (skipGap (c :: cs))) items rest := by
    rwa [skipGap_cons opens.1]
  obtain ⟨_, ahead⟩ := ahead
  rw [readValue, if_neg (Nat.succ_ne_zero room), closes_of_ne opens.1 opens.2.1]
  simp only [Nat.add_sub_cancel, ahead]
  exact ⟨_, rfl⟩

theorem readValue_object {members : List (String × Json)} (opens : Opens c)
    (read : Yields (readMembers most room [] (c :: cs)) members rest) :
    Yields (readValue most (room + 1) ('\x7b' :: c :: cs)) (.obj members) rest := by
  have ahead : Yields (readMembers most room [] (skipGap (c :: cs))) members rest := by
    rwa [skipGap_cons opens.1]
  obtain ⟨_, ahead⟩ := ahead
  rw [readValue, if_neg (Nat.succ_ne_zero room), closes_of_ne opens.1 opens.2.2]
  simp only [Nat.add_sub_cancel, ahead]
  exact ⟨_, rfl⟩

theorem readItems_last {item : Json} (read : Yields (readValue most room s) item (']' :: rest)) :
    Yields (readItems most room s) [item] rest := by
  obtain ⟨_, read⟩ := read
  rw [readItems, read]
  simp only [nextMark_cons (show isGap ']' = false by decide), if_true]
  exact ⟨_, rfl⟩

theorem readItems_more {item : Json} {items : List Json} (opens : Opens c)
    (read : Yields (readValue most room s) item (',' :: c :: cs))
    (run : Yields (readItems most room (c :: cs)) items rest) :
    Yields (readItems most room s) (item :: items) rest := by
  have ahead : Yields (readItems most room (skipGap (c :: cs))) items rest := by
    rwa [skipGap_cons opens.1]
  obtain ⟨_, ahead⟩ := ahead
  obtain ⟨_, read⟩ := read
  rw [readItems, read]
  simp only [nextMark_cons (show isGap ',' = false by decide), if_true, ahead,
    show ¬ ',' = ']' by decide, if_false]
  exact ⟨_, rfl⟩

variable {known members : List (String × Json)} {key : String} {value : Json} {d : Char}
  {ds : List Char}

theorem readMembers_last (named : Yields (readKey s) key (c :: cs)) (opens : Opens c)
    (fresh : key ∉ known.map Prod.fst)
    (read : Yields (readValue most room (c :: cs)) value ('\x7d' :: rest)) :
    Yields (readMembers most room known s) (known ++ [(key, value)]) rest := by
  have ahead : Yields (readValue most room (skipGap (c :: cs))) value ('\x7d' :: rest) := by
    rwa [skipGap_cons opens.1]
  obtain ⟨_, ahead⟩ := ahead
  obtain ⟨_, named⟩ := named
  rw [readMembers, named]
  simp only [ahead, nextMark_cons (show isGap '\x7d' = false by decide), if_true,
    assign_of_fresh fresh]
  exact ⟨_, rfl⟩

theorem readMembers_more (named : Yields (readKey s) key (c :: cs)) (opens : Opens c)
    (fresh : key ∉ known.map Prod.fst)
    (read : Yields (readValue most room (c :: cs)) value (',' :: d :: ds)) (next : Opens d)
    (run : Yields (readMembers most room (known ++ [(key, value)]) (d :: ds)) members rest) :
    Yields (readMembers most room known s) members rest := by
  have ahead : Yields (readValue most room (skipGap (c :: cs))) value (',' :: d :: ds) := by
    rwa [skipGap_cons opens.1]
  have later : Yields (readMembers most room (known ++ [(key, value)]) (skipGap (d :: ds))) members
      rest := by
    rwa [skipGap_cons next.1]
  obtain ⟨_, ahead⟩ := ahead
  obtain ⟨_, later⟩ := later
  obtain ⟨_, named⟩ := named
  rw [readMembers, named]
  simp only [ahead, nextMark_cons (show isGap ',' = false by decide), if_true, if_false,
    show ¬ ',' = '\x7d' by decide, assign_of_fresh fresh, later]
  exact ⟨_, rfl⟩

end

/-! ### Values -/

theorem exists_writeItems_eq_cons {item : Json} (floatFree : item.isFloatFree = true)
    (items : List Json) (tail : List Char) :
    ∃ c cs, writeItems .compact (item :: items) ++ tail = c :: cs ∧ Opens c := by
  obtain ⟨c, cs, written, opens⟩ := exists_write_eq_cons floatFree
  cases items with
  | nil => exact ⟨c, cs ++ tail, by rw [writeItems, written, List.cons_append], opens⟩
  | cons next items =>
    refine ⟨c, cs ++ Layout.compact.betweenItems.toList ++ writeItems .compact (next :: items) ++ tail,
      ?_, opens⟩
    simp [writeItems, written]

theorem exists_writeMembers_eq_cons (entry : String × Json) (members : List (String × Json))
    (tail : List Char) :
    ∃ c cs, writeMembers .compact (entry :: members) ++ tail = c :: cs ∧ Opens c := by
  cases members with
  | nil => exact ⟨'"', _, rfl, by decide⟩
  | cons next members => exact ⟨'"', _, rfl, by decide⟩

mutual

/-- A value is read back from what is written. -/
theorem readValue_write (most : Nat) : ∀ (v : Json) (room : Nat) (rest : List Char),
    v.isFloatFree = true → v.isRegular = true → v.digits ≤ most → v.depth ≤ room → Follows rest →
    Yields (readValue most room (write .compact v ++ rest)) v rest
  | .null, room, rest, _, _, _, _, _ => by
    rw [write, List.cons_append, readValue_scalar most room (by decide)]
    exact ⟨_, rfl⟩
  | .bool true, room, rest, _, _, _, _, _ => by
    rw [write, if_pos rfl, List.cons_append, readValue_scalar most room (by decide)]
    exact ⟨_, rfl⟩
  | .bool false, room, rest, _, _, _, _, _ => by
    rw [write, if_neg (by decide), List.cons_append, readValue_scalar most room (by decide)]
    exact ⟨_, rfl⟩
  | .int n, room, rest, _, _, short, _, follows => readValue_int short follows
  | .float _, _, _, floatFree, _, _, _, _ => nomatch floatFree
  | .str text, room, rest, _, regular, _, _, _ => by
    have joined : Text.IsJoined text := of_decide_eq_true regular
    have written : write .compact (.str text) ++ rest =
        '"' :: ((Text.codePoints text.toList).flatMap writePoint ++ '"' :: rest) := by
      simp [write, writeText]
    obtain ⟨_, read⟩ := readText_writeText
      (((Text.codePoints text.toList).flatMap writePoint ++ '"' :: rest).length + 1) joined rest
    rw [written, readValue, read]
    dsimp only
    rw [String.ofList_toList]
    exact ⟨_, rfl⟩
  | .arr [], 0, _, _, _, _, fits, _ | .arr (_ :: _), 0, _, _, _, _, fits, _
  | .obj [], 0, _, _, _, _, fits, _ | .obj (_ :: _), 0, _, _, _, _, fits, _ => by
    rw [depth] at fits
    omega
  | .arr [], room + 1, rest, _, _, _, _, _ => by
    have written : write .compact (.arr []) ++ rest = '[' :: ']' :: rest := rfl
    rw [written, readValue, if_neg (Nat.succ_ne_zero room), closes_self (by decide)]
    exact ⟨_, rfl⟩
  | .arr (item :: items), room + 1, rest, floatFree, regular, short, fits, _ => by
    have run := readItems_write most item items room rest floatFree regular short
      (by rw [depth] at fits; omega)
    have written : write .compact (.arr (item :: items)) ++ rest =
        '[' :: (writeItems .compact (item :: items) ++ ']' :: rest) := by
      simp [write]
    rw [isFloatFree, allFloatFree, Bool.and_eq_true] at floatFree
    obtain ⟨c, cs, front, opens⟩ := exists_writeItems_eq_cons floatFree.1 items (']' :: rest)
    rw [front] at run
    rw [written, front]
    exact readValue_list opens run
  | .obj [], room + 1, rest, _, _, _, _, _ => by
    have written : write .compact (.obj []) ++ rest = '\x7b' :: '\x7d' :: rest := rfl
    rw [written, readValue, if_neg (Nat.succ_ne_zero room), closes_self (by decide)]
    exact ⟨_, rfl⟩
  | .obj (entry :: members), room + 1, rest, floatFree, regular, short, fits, _ => by
    rw [isRegular, Bool.and_eq_true] at regular
    have run := readMembers_write most entry members [] room rest floatFree regular.2 short
      (by rw [depth] at fits; omega) (of_decide_eq_true regular.1)
    have written : write .compact (.obj (entry :: members)) ++ rest =
        '\x7b' :: (writeMembers .compact (entry :: members) ++ '\x7d' :: rest) := by
      simp [write]
    obtain ⟨c, cs, front, opens⟩ := exists_writeMembers_eq_cons entry members ('\x7d' :: rest)
    rw [front] at run
    rw [written, front]
    exact readValue_object opens run
termination_by v => sizeOf v

/-- Items are read back up to the closing bracket. -/
theorem readItems_write (most : Nat) : ∀ (item : Json) (items : List Json) (room : Nat)
    (rest : List Char), allFloatFree (item :: items) = true → allRegular (item :: items) = true →
    itemDigits (item :: items) ≤ most → itemDepth (item :: items) ≤ room →
    Yields (readItems most room (writeItems .compact (item :: items) ++ ']' :: rest))
      (item :: items) rest
  | item, [], room, rest, floatFree, regular, short, fits => by
    simp only [allFloatFree, allRegular, itemDigits, itemDepth, Bool.and_true, Nat.max_zero]
      at floatFree regular short fits
    rw [writeItems]
    exact readItems_last (readValue_write most item room _ floatFree regular short fits
      (.mark (Or.inr (Or.inl rfl))))
  | item, next :: items, room, rest, floatFree, regular, short, fits => by
    rw [allFloatFree, Bool.and_eq_true] at floatFree
    rw [allRegular, Bool.and_eq_true] at regular
    rw [itemDigits] at short
    rw [itemDepth] at fits
    have written : writeItems .compact (item :: next :: items) ++ ']' :: rest =
        write .compact item ++ ',' :: (writeItems .compact (next :: items) ++ ']' :: rest) := by
      simp [writeItems, Layout.compact]
    have run := readItems_write most next items room rest floatFree.2 regular.2 (by omega) (by omega)
    have read := readValue_write most item room
      (',' :: (writeItems .compact (next :: items) ++ ']' :: rest)) floatFree.1 regular.1 (by omega)
      (by omega) (.mark (Or.inl rfl))
    rw [allFloatFree, Bool.and_eq_true] at floatFree
    obtain ⟨c, cs, front, opens⟩ := exists_writeItems_eq_cons floatFree.2.1 items (']' :: rest)
    rw [front] at run read
    rw [written, front]
    exact readItems_more opens read run
termination_by item items => sizeOf (item :: items)

/-- Members are read back up to the closing brace, behind those that are known. -/
theorem readMembers_write (most : Nat) : ∀ (entry : String × Json) (members known : List (String × Json))
    (room : Nat) (rest : List Char), membersFloatFree (entry :: members) = true →
    membersRegular (entry :: members) = true → memberDigits (entry :: members) ≤ most →
    memberDepth (entry :: members) ≤ room → ((known ++ entry :: members).map Prod.fst).Nodup →
    Yields (readMembers most room known (writeMembers .compact (entry :: members) ++ '\x7d' :: rest))
      (known ++ entry :: members) rest
  | (key, value), [], known, room, rest, floatFree, regular, short, fits, apart => by
    simp only [membersFloatFree, membersRegular, memberDigits, memberDepth, Bool.and_true,
      Nat.max_zero, Bool.and_eq_true] at floatFree regular short fits
    have read := readValue_write most value room ('\x7d' :: rest) floatFree regular.2 short fits
      (.mark (Or.inr (Or.inr rfl)))
    have written : writeMembers .compact [(key, value)] ++ '\x7d' :: rest =
        writeText key ++ ':' :: (write .compact value ++ '\x7d' :: rest) := by
      simp [writeMembers, Layout.compact]
    have named := readKey_writeText (of_decide_eq_true regular.1)
      (write .compact value ++ '\x7d' :: rest)
    obtain ⟨c, cs, front, opens⟩ := exists_write_eq_cons floatFree
    rw [written]
    rw [front, List.cons_append] at read named ⊢
    exact readMembers_last named opens (fresh_of_nodup apart) read
  | (key, value), next :: members, known, room, rest, floatFree, regular, short, fits, apart => by
    rw [membersFloatFree, Bool.and_eq_true] at floatFree
    rw [membersRegular, Bool.and_eq_true, Bool.and_eq_true] at regular
    rw [memberDigits] at short
    rw [memberDepth] at fits
    have others : ((known ++ [(key, value)]) ++ next :: members) =
        known ++ (key, value) :: next :: members := by simp
    have run := readMembers_write most next members (known ++ [(key, value)]) room rest floatFree.2
      regular.2 (by omega) (by omega) (others ▸ apart)
    have read := readValue_write most value room
      (',' :: (writeMembers .compact (next :: members) ++ '\x7d' :: rest)) floatFree.1 regular.1.2
      (by omega) (by omega) (.mark (Or.inl rfl))
    have written : writeMembers .compact ((key, value) :: next :: members) ++ '\x7d' :: rest =
        writeText key ++ ':' :: (write .compact value ++
          ',' :: (writeMembers .compact (next :: members) ++ '\x7d' :: rest)) := by
      simp [writeMembers, Layout.compact]
    have named := readKey_writeText (of_decide_eq_true regular.1.1) (write .compact value ++
      ',' :: (writeMembers .compact (next :: members) ++ '\x7d' :: rest))
    obtain ⟨c, cs, front, opens⟩ := exists_write_eq_cons floatFree.1
    obtain ⟨d, ds, ahead, next_⟩ := exists_writeMembers_eq_cons next members ('\x7d' :: rest)
    rw [written]
    rw [front, ahead, List.cons_append] at read
    rw [front, ahead, List.cons_append] at named ⊢
    rw [ahead, others] at run
    exact readMembers_more named opens (fresh_of_nodup apart) read next_ run
termination_by entry members => sizeOf (entry :: members)

end

/-- The text of a value is read as that value. -/
theorem readWithin_write {most room : Nat} {v : Json} (floatFree : v.isFloatFree = true)
    (regular : v.isRegular = true) (short : v.digits ≤ most) (fits : v.depth ≤ room) :
    readWithin most room (write .compact v) = .ok v := by
  obtain ⟨c, cs, written, opens⟩ := exists_write_eq_cons floatFree
  have read := readValue_write most v room [] floatFree regular short fits .nothing
  have start : Yields (readValue most room (skipGap (write .compact v))) v [] := by
    rw [List.append_nil, written] at read
    rwa [written, skipGap_cons opens.1]
  obtain ⟨_, start⟩ := start
  rw [readWithin, start]
  rfl

end AccessControl.Json
