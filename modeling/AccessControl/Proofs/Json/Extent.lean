import AccessControl.Proofs.Json.RoundTrip

/-!
# How much a reader takes

How many characters of a text are taken for what is read from it. A text in quotes is spelled as it is
or gives fewer characters than it takes, since every escape is longer than what it stands for; so an
object that has no characters to spare is spelled as it is.

* `readText_shortens`: the two cases of a text, from `shortens_textStep` for one step;
* `yields_readKey_iff`, `yields_readMembers_iff` and the others: what is read, one part after another;
* `lacking_of_readMembers`: what two members lack is in the rest of the text, by induction over the
  members from `lacking_of_member` for one;
* `isPlain_of_lacking`: hence a text whose member leaves no more than that stands for itself.
-/
namespace AccessControl.Json

/-- The character stands for itself inside quotes. -/
def IsPlainChar (c : Char) : Prop := c ≠ '"' ∧ c ≠ '\\' ∧ 0x20 ≤ c.toNat

def IsPlain (s : String) : Prop := ∀ c ∈ s.toList, IsPlainChar c

instance (c : Char) : Decidable (IsPlainChar c) := inferInstanceAs (Decidable (_ ∧ _))

instance (s : String) : Decidable (IsPlain s) := List.decidableBAll IsPlainChar s.toList

theorem textStep_plain (opened : Nat) {c : Char} (plain : IsPlainChar c) (r : List Char) :
    (textStep opened (c :: r)).Reads [c] r := by
  obtain ⟨quote, escape, printed⟩ := plain
  rw [textStep]
  · rw [if_neg (Nat.not_lt.mpr printed)]
    exact ⟨_, rfl⟩
  · exact quote
  · exact fun _ _ _ _ _ same => absurd same escape
  · exact fun _ same => absurd same escape
  · exact fun _ _ same => absurd same escape
  · exact fun same => absurd same escape

/-- A step ends at the quote, or takes a character that stands for itself, or gives fewer characters
than it takes. -/
def TextStep.Shortens {s : List Char} : TextStep s → Prop
  | .close rest _ => s = '"' :: rest
  | .part cs rest _ =>
    cs.length + rest.length < s.length ∨ ∃ c, IsPlainChar c ∧ cs = [c] ∧ s = c :: rest
  | .fail _ => True

theorem length_spelled_le (n : Nat) : (Text.spelled n).length ≤ 2 := by
  unfold Text.spelled
  split_ifs
  · exact Nat.le_refl 2
  · exact Nat.le_refl 2
  · exact (by decide : 1 ≤ 2)
  · exact (by decide : 1 ≤ 2)

/-- An escape takes at least four characters more than it leaves and gives two at most. -/
theorem shortens_spelled (n : Nat) {s rest : List Char} {shorter : rest.length < s.length}
    (taken : rest.length + 3 ≤ s.length) : (TextStep.part (Text.spelled n) rest shorter).Shortens :=
  .inl (by have := length_spelled_le n; omega)

theorem shortens_textStep (opened : Nat) (s : List Char) : (textStep opened s).Shortens := by
  fun_cases textStep opened s with
  | case1 => trivial
  | case2 r => rfl
  | case3 a b c d r unit => simp only [textStep, unit]; trivial
  | case4 a b c d high unit => simp only [textStep, unit]; trivial
  | case5 a b c d high a' b' c' d' e r unit opens unit' =>
    simp only [textStep, unit, if_pos opens, unit']
    trivial
  | case6 a b c d high a' b' c' d' e r unit opens low unit' closes =>
    simp only [textStep, unit, if_pos opens, unit', if_pos closes]
    exact shortens_spelled _ (by simp only [List.length_cons]; omega)
  | case7 a b c d high a' b' c' d' e r unit opens low unit' closes =>
    simp only [textStep, unit, if_pos opens, unit', if_neg closes]
    exact shortens_spelled _ (by simp only [List.length_cons]; omega)
  | case8 a b c d high a' b' c' d' e r unit opens =>
    simp only [textStep, unit, if_neg opens]
    exact shortens_spelled _ (by simp only [List.length_cons]; omega)
  | case9 a b c d high r more other unit =>
    rw [textStep]
    simp only [unit]
    exact shortens_spelled _ (by simp only [List.length_cons]; omega)
  | case10 r short => simp only [textStep]; trivial
  | case11 e r _ _ c known =>
    rw [textStep]
    · simp only [known]
      exact .inl (by simp only [List.length_cons, List.length_nil]; omega)
    all_goals assumption
  | case12 e r _ _ unknown =>
    rw [textStep]
    · simp only [unknown]
      trivial
    all_goals assumption
  | case13 => trivial
  | case14 c r quote _ _ escape last low =>
    rw [textStep, if_pos low]
    · trivial
    all_goals assumption
  | case15 c r quote _ _ escape last printed =>
    rw [textStep, if_neg printed]
    · refine .inr ⟨c, ⟨quote, fun backslash => ?_, Nat.not_lt.mp printed⟩, rfl, rfl⟩
      cases r with
      | nil => exact last backslash rfl
      | cons e r => exact escape e r backslash rfl
    all_goals assumption

theorem readText_plain (opened : Nat) {cs : List Char} (plain : ∀ c ∈ cs, IsPlainChar c)
    (rest : List Char) : Yields (readText opened (cs ++ '"' :: rest)) cs rest := by
  induction cs with
  | nil =>
    rw [List.nil_append, readText, textStep]
    exact ⟨_, rfl⟩
  | cons c cs ih =>
    obtain ⟨here, later⟩ := List.forall_mem_cons.mp plain
    obtain ⟨_, step⟩ := textStep_plain opened here (cs ++ '"' :: rest)
    obtain ⟨_, read⟩ := ih later
    rw [List.cons_append, readText, step]
    dsimp only
    rw [read]
    exact ⟨_, rfl⟩

/-- A text in quotes is spelled as it is, or gives fewer characters than it takes. -/
theorem readText_shortens {opened : Nat} {s value rest : List Char}
    (read : Yields (readText opened s) value rest) :
    value.length + 1 + rest.length < s.length ∨
      ((∀ c ∈ value, IsPlainChar c) ∧ s = value ++ '"' :: rest) := by
  obtain ⟨shorter, read⟩ := read
  -- step by step, each of which takes as much as it gives or is the last one
  induction s using readText.induct opened generalizing value rest with
  | case1 s e failed =>
    rw [readText, failed] at read
    cases read
  | case2 s rest quote closed =>
    have shortens := shortens_textStep opened s
    rw [readText, closed] at read
    rw [closed] at shortens
    cases read
    exact .inr ⟨fun c listed => absurd listed List.not_mem_nil, shortens⟩
  | case3 s cs rest fewer step e failed ih =>
    rw [readText, step] at read
    dsimp only at read
    rw [failed] at read
    cases read
  | case4 s cs later fewer step tail read' ih =>
    have shortens := shortens_textStep opened s
    rw [readText, step] at read
    dsimp only at read
    rw [read'] at read
    rw [step] at shortens
    cases read
    have taken := ih tail.shorter read'
    rw [List.length_append]
    obtain less | ⟨c, plain, rfl, rfl⟩ := shortens
    · left
      obtain before | ⟨-, same⟩ := taken
      · omega
      · have := congrArg List.length same
        simp only [List.length_append, List.length_cons] at this
        omega
    · obtain before | ⟨plains, same⟩ := taken
      · left
        simp only [List.length_cons, List.length_nil]
        omega
      · exact .inr ⟨List.forall_mem_cons.mpr ⟨plain, plains⟩, congrArg (List.cons c) same⟩

/-! ### Marks, keys and values -/

theorem skipGap_of_nextMark {s : List Char} {mark : Reading Char s} (next : nextMark s = some mark) :
    skipGap s = mark.value :: mark.rest := by
  unfold nextMark at next
  split at next
  · cases next
  · rename_i c rest same
    cases next
    exact same

theorem nextMark_of_skipGap {s rest : List Char} {c : Char} (front : skipGap s = c :: rest) :
    ∃ shorter, nextMark s = some ⟨c, rest, shorter⟩ := by
  unfold nextMark
  split
  · rename_i nothing
    rw [front] at nothing
    cases nothing
  · rename_i d tail same
    rw [front] at same
    cases same
    have shorter := length_skipGap_le s
    rw [front] at shorter
    exact ⟨shorter, rfl⟩

theorem yields_readKey_iff {s rest : List Char} {key : String} :
    Yields (readKey s) key rest ↔
      ∃ r cs after, s = '"' :: r ∧ Yields (readText (r.length + 1) r) cs after ∧
        skipGap after = ':' :: rest ∧ key = String.ofList cs := by
  constructor
  · rintro ⟨shorter, read⟩
    unfold readKey at read
    split at read
    · rename_i r
      cases text : readText (r.length + 1) r with
      | error e =>
        rw [text] at read
        cases read
      | ok t =>
        rw [text] at read
        dsimp only at read
        cases next : nextMark t.rest with
        | none =>
          rw [next] at read
          cases read
        | some mark =>
          rw [next] at read
          dsimp only at read
          split_ifs at read with colon
          cases read
          refine ⟨r, t.value, t.rest, rfl, ⟨t.shorter, text⟩, ?_, rfl⟩
          rw [skipGap_of_nextMark next, colon]
    · cases read
  · rintro ⟨r, cs, after, rfl, ⟨_, text⟩, front, rfl⟩
    obtain ⟨_, next⟩ := nextMark_of_skipGap front
    rw [readKey, text]
    dsimp only
    rw [next]
    dsimp only
    rw [if_pos rfl]
    exact ⟨_, rfl⟩

theorem number?_ne_text {negative : Bool} {s : List Char} {t : Reading Json s}
    (found : number? negative s = some t) (x : String) : t.value ≠ .str x := by
  unfold number? at found
  split at found
  · cases found
  · dsimp only at found
    split at found
    · split at found <;> cases found <;> nofun
    · split at found <;> cases found <;> nofun

theorem scalar?_ne_text {s : List Char} {t : Reading Json s} (found : scalar? s = some t)
    (x : String) : t.value ≠ .str x := by
  unfold scalar? at found
  split at found
  case h_7 =>
    obtain ⟨u, number, rfl⟩ := Option.map_eq_some_iff.mp found
    exact number?_ne_text number x
  case h_8 => exact number?_ne_text found x
  all_goals
    cases found
    nofun

/-- No word and no number is a text. -/
theorem readScalar_ne_text {most : Nat} {s : List Char} {t : Reading Json s}
    (read : readScalar most s = .ok t) (x : String) : t.value ≠ .str x := by
  unfold readScalar at read
  split at read
  · cases read
  · rename_i u found
    dsimp only at read
    split_ifs at read
    cases read
    exact scalar?_ne_text found x

theorem yields_readValue_text_iff {most room : Nat} {s rest : List Char} {x : String} :
    Yields (readValue most room s) (.str x) rest ↔
      ∃ r, s = '"' :: r ∧ Yields (readText (r.length + 1) r) x.toList rest := by
  constructor
  · rintro ⟨shorter, read⟩
    unfold readValue at read
    split at read
    · rename_i r
      cases text : readText (r.length + 1) r with
      | error e =>
        rw [text] at read
        cases read
      | ok t =>
        rw [text] at read
        cases read
        exact ⟨r, rfl, t.shorter, by rw [String.toList_ofList, text]⟩
    · split_ifs at read
      split at read
      · cases read
      · split at read
        · cases read
        · cases read
    · split_ifs at read
      split at read
      · cases read
      · split at read
        · cases read
        · cases read
    · exact absurd rfl (readScalar_ne_text read x)
  · rintro ⟨r, rfl, _, text⟩
    rw [readValue, text]
    dsimp only
    rw [String.ofList_toList]
    exact ⟨_, rfl⟩

/-- What starts with a quote is a text. -/
theorem exists_text_of_readValue {most room : Nat} {r rest : List Char} {value : Json}
    (read : Yields (readValue most room ('"' :: r)) value rest) :
    ∃ x, value = .str x ∧ Yields (readText (r.length + 1) r) x.toList rest := by
  obtain ⟨_, read⟩ := read
  rw [readValue] at read
  cases text : readText (r.length + 1) r with
  | error e =>
    rw [text] at read
    cases read
  | ok t =>
    rw [text] at read
    cases read
    exact ⟨_, rfl, t.shorter, by rw [String.toList_ofList]⟩

/-! ### Members -/

theorem yields_readMembers_iff {most room : Nat} {known members : List (String × Json)}
    {s rest : List Char} :
    Yields (readMembers most room known s) members rest ↔
      ∃ key afterKey value afterValue, Yields (readKey s) key afterKey ∧
        Yields (readValue most room (skipGap afterKey)) value afterValue ∧
        ((skipGap afterValue = '\x7d' :: rest ∧ members = assign known key value) ∨
          ∃ later, skipGap afterValue = ',' :: later ∧
            Yields (readMembers most room (assign known key value) (skipGap later)) members
              rest) := by
  constructor
  · rintro ⟨shorter, read⟩
    rw [readMembers] at read
    cases named : readKey s with
    | error e =>
      rw [named] at read
      cases read
    | ok key =>
      rw [named] at read
      dsimp only at read
      cases valued : readValue most room (skipGap key.rest) with
      | error e =>
        rw [valued] at read
        cases read
      | ok value =>
        rw [valued] at read
        dsimp only at read
        cases next : nextMark value.rest with
        | none =>
          rw [next] at read
          cases read
        | some mark =>
          have front := skipGap_of_nextMark next
          rw [next] at read
          dsimp only at read
          refine ⟨key.value, key.rest, value.value, value.rest, ⟨key.shorter, rfl⟩,
            ⟨value.shorter, valued⟩, ?_⟩
          split_ifs at read with closed comma
          · cases read
            exact .inl ⟨closed ▸ front, rfl⟩
          · cases run : readMembers most room (assign known key.value value.value)
                (skipGap mark.rest) with
            | error e =>
              rw [run] at read
              cases read
            | ok tail =>
              rw [run] at read
              cases read
              exact .inr ⟨mark.rest, comma ▸ front, tail.shorter, run⟩
  · rintro ⟨key, afterKey, value, afterValue, ⟨_, named⟩, ⟨_, valued⟩, ending⟩
    rw [readMembers, named]
    dsimp only
    rw [valued]
    dsimp only
    obtain ⟨front, rfl⟩ | ⟨later, front, _, run⟩ := ending
    · obtain ⟨_, next⟩ := nextMark_of_skipGap front
      rw [next]
      dsimp only
      rw [if_pos rfl]
      exact ⟨_, rfl⟩
    · obtain ⟨_, next⟩ := nextMark_of_skipGap front
      rw [next]
      dsimp only
      rw [if_neg (by decide), if_pos rfl, run]
      exact ⟨_, rfl⟩

theorem yields_readValue_object_iff {most room : Nat} {t rest : List Char} {v : Json} :
    Yields (readValue most (room + 1) ('\x7b' :: '"' :: t)) v rest ↔
      ∃ members, v = .obj members ∧ Yields (readMembers most room [] ('"' :: t)) members rest := by
  constructor
  · rintro ⟨_, read⟩
    have start : skipGap ('"' :: t) = '"' :: t := skipGap_cons rfl t
    rw [readValue, if_neg (Nat.succ_ne_zero room), closes_of_ne rfl (by decide)] at read
    simp only [Nat.add_sub_cancel] at read
    cases run : readMembers most room [] (skipGap ('"' :: t)) with
    | error e =>
      rw [run] at read
      cases read
    | ok u =>
      obtain ⟨members, later, shorter⟩ := u
      rw [run] at read
      cases read
      have yields : Yields (readMembers most room [] (skipGap ('"' :: t))) members later :=
        ⟨shorter, run⟩
      rw [start] at yields
      exact ⟨members, rfl, yields⟩
  · rintro ⟨members, rfl, run⟩
    exact readValue_object (by decide) run

theorem readWithin_eq_ok_iff {most room : Nat} {text : List Char} {v : Json} :
    readWithin most room text = .ok v ↔
      ∃ rest, Yields (readValue most room (skipGap text)) v rest ∧ skipGap rest = [] := by
  unfold readWithin
  constructor
  · intro read
    split at read
    · cases read
    · rename_i u value
      split at read
      · rename_i nothing
        cases read
        exact ⟨u.rest, ⟨u.shorter, value⟩, nothing⟩
      · cases read
  · rintro ⟨rest, ⟨_, value⟩, nothing⟩
    rw [value]
    dsimp only
    rw [nothing]

/-- An object is read member by member, with nothing but blanks behind it. -/
theorem readWithin_object_iff {most room : Nat} {t : List Char} {members : List (String × Json)} :
    readWithin most (room + 1) ('\x7b' :: '"' :: t) = .ok (.obj members) ↔
      ∃ rest, Yields (readMembers most room [] ('"' :: t)) members rest ∧ skipGap rest = [] := by
  rw [readWithin_eq_ok_iff, skipGap_cons rfl]
  refine exists_congr fun rest => and_congr_left fun _ => ?_
  rw [yields_readValue_object_iff]
  constructor
  · rintro ⟨members', same, run⟩
    rwa [Json.obj.inj same]
  · intro run
    exact ⟨members, rfl, run⟩

/-! ### Texts that stand for themselves -/

def quote (s : String) : List Char := '"' :: (s.toList ++ ['"'])

theorem length_quote (s : String) : (quote s).length = s.length + 2 := by
  rw [quote, List.length_cons, List.length_append, String.length_toList]
  rfl

theorem quote_append (s : String) (rest : List Char) :
    quote s ++ rest = '"' :: (s.toList ++ '"' :: rest) := by
  simp [quote]

theorem Yields.unique {α : Type} {s : List Char} {result : Except ReadError (Reading α s)}
    {a b : α} {rest rest' : List Char} (first : Yields result a rest)
    (second : Yields result b rest') : a = b ∧ rest = rest' := by
  obtain ⟨_, first⟩ := first
  obtain ⟨_, second⟩ := second
  rw [first] at second
  cases second
  exact ⟨rfl, rfl⟩

theorem readKey_quote {key : String} (plain : IsPlain key) (rest : List Char) :
    Yields (readKey (quote key ++ ':' :: rest)) key rest := by
  rw [quote_append]
  exact yields_readKey_iff.mpr ⟨_, _, _, rfl, readText_plain _ plain _, skipGap_cons rfl rest,
    String.ofList_toList.symm⟩

theorem readValue_quote (most room : Nat) {x : String} (plain : IsPlain x) (rest : List Char) :
    Yields (readValue most room (quote x ++ rest)) (.str x) rest := by
  rw [quote_append]
  exact yields_readValue_text_iff.mpr ⟨_, rfl, readText_plain _ plain rest⟩

theorem skipGap_quote (s : String) (rest : List Char) : skipGap (quote s ++ rest) = quote s ++ rest := by
  rw [quote_append, skipGap_cons rfl]

/-- A member whose key and text stand for themselves is read as they are. -/
theorem yields_readMembers_quote_iff {most room : Nat} {known members : List (String × Json)}
    {key x : String} (plain : IsPlain key) (also : IsPlain x) {s rest : List Char} :
    Yields (readMembers most room known (quote key ++ ':' :: (quote x ++ s))) members rest ↔
      (skipGap s = '\x7d' :: rest ∧ members = assign known key (.str x)) ∨
        ∃ later, skipGap s = ',' :: later ∧
          Yields (readMembers most room (assign known key (.str x)) (skipGap later)) members
            rest := by
  rw [yields_readMembers_iff]
  have named := readKey_quote plain (quote x ++ s)
  have valued : Yields (readValue most room (skipGap (quote x ++ s))) (.str x) s := by
    rw [skipGap_quote]
    exact readValue_quote most room also s
  constructor
  · rintro ⟨key', afterKey, value, afterValue, named', valued', ending⟩
    obtain ⟨rfl, rfl⟩ := named.unique named'
    obtain ⟨rfl, rfl⟩ := valued.unique valued'
    exact ending
  · intro ending
    exact ⟨key, _, _, _, named, valued, ending⟩

theorem yields_readMembers_quote_more_iff {most room : Nat} {known members : List (String × Json)}
    {key x : String} (plain : IsPlain key) (also : IsPlain x) {next : String}
    {s rest : List Char} :
    Yields (readMembers most room known
        (quote key ++ ':' :: (quote x ++ ',' :: (quote next ++ s)))) members rest ↔
      Yields (readMembers most room (assign known key (.str x)) (quote next ++ s)) members rest := by
  rw [yields_readMembers_quote_iff plain also, skipGap_cons rfl]
  constructor
  · rintro (⟨other, -⟩ | ⟨later, same, run⟩)
    · exact absurd (List.cons.inj other).1 (by decide)
    · obtain ⟨-, rfl⟩ := List.cons.inj same
      rwa [skipGap_quote] at run
  · intro run
    refine .inr ⟨_, rfl, ?_⟩
    rwa [skipGap_quote]

theorem yields_readMembers_quote_last_iff {most room : Nat} {known members : List (String × Json)}
    {key x : String} (plain : IsPlain key) (also : IsPlain x) {s rest : List Char} :
    Yields (readMembers most room known (quote key ++ ':' :: (quote x ++ '\x7d' :: s))) members
        rest ↔
      s = rest ∧ members = assign known key (.str x) := by
  rw [yields_readMembers_quote_iff plain also, skipGap_cons rfl, List.cons.injEq,
    and_iff_right rfl]
  refine or_iff_left ?_
  rintro ⟨later, other, -⟩
  exact absurd (List.cons.inj other).1 (by decide)

/-! ### What is taken for what is read -/

theorem length_lt_of_skipGap {s rest : List Char} {c : Char} (front : skipGap s = c :: rest) :
    rest.length < s.length := by
  have shorter := length_skipGap_le s
  rw [front] at shorter
  exact shorter

theorem length_of_readText {opened : Nat} {s value rest : List Char}
    (read : Yields (readText opened s) value rest) :
    value.length + 1 + rest.length ≤ s.length := by
  obtain less | ⟨-, rfl⟩ := readText_shortens read
  · exact Nat.le_of_lt less
  · simp only [List.length_append, List.length_cons]
    omega

/-- A key takes its quotes and its colon too. -/
theorem length_of_readKey {s rest : List Char} {key : String}
    (named : Yields (readKey s) key rest) : key.length + 3 + rest.length ≤ s.length := by
  obtain ⟨r, cs, after, rfl, text, front, rfl⟩ := yields_readKey_iff.mp named
  have := length_of_readText text
  have := length_lt_of_skipGap front
  rw [String.length_ofList, List.length_cons]
  omega

theorem length_of_readValue_text {most room : Nat} {s rest : List Char} {x : String}
    (read : Yields (readValue most room s) (.str x) rest) :
    x.length + 2 + rest.length ≤ s.length := by
  obtain ⟨r, rfl, text⟩ := yields_readValue_text_iff.mp read
  have := length_of_readText text
  rw [String.length_toList] at this
  rw [List.length_cons]
  omega

/-- How many characters a text member takes at least, unless it is known. -/
def lacking (known : List (String × Json)) (key text : String) : Nat :=
  if known.lookup key = some (.str text) then 0 else key.length + text.length + 6

theorem lacking_le (known : List (String × Json)) (key text : String) :
    lacking known key text ≤ key.length + text.length + 6 := by
  rw [lacking]
  split_ifs
  · exact Nat.zero_le _
  · exact Nat.le_refl _

theorem lacking_of_lookup {known : List (String × Json)} {key text : String}
    (found : known.lookup key = some (.str text)) : lacking known key text = 0 :=
  if_pos found

theorem lacking_assign_of_ne {key other : String} (differ : other ≠ key)
    (known : List (String × Json)) (value : Json) (text : String) :
    lacking (assign known key value) other text = lacking known other text := by
  rw [lacking, lacking, lookup_assign_of_ne differ]

/-- What is lacking of a key before a member is what is lacking after it and what it takes. -/
theorem lacking_of_member {most room : Nat} (known : List (String × Json))
    {s afterKey afterValue rest : List Char} {key : String} {value : Json} {mark : Char}
    (named : Yields (readKey s) key afterKey)
    (valued : Yields (readValue most room (skipGap afterKey)) value afterValue)
    (front : skipGap afterValue = mark :: rest) (text : String) :
    lacking known key text + rest.length ≤ lacking (assign known key value) key text + s.length := by
  have keyLength := length_of_readKey named
  have gapLength := length_skipGap_le afterKey
  have markLength := length_lt_of_skipGap front
  have full := lacking_le known key text
  by_cases same : value = .str text
  · subst same
    have valueLength := length_of_readValue_text valued
    omega
  · have still : lacking (assign known key value) key text = key.length + text.length + 6 := by
      rw [lacking, lookup_assign_self, if_neg fun found => same (Option.some.inj found)]
    obtain ⟨shorter, -⟩ := valued
    omega

/-- What two texts under different keys lack is read from the rest, or was known. -/
theorem lacking_of_readMembers {most room : Nat} {known members : List (String × Json)}
    {s rest : List Char} {k l x y : String} (apart : k ≠ l)
    (read : Yields (readMembers most room known s) members rest)
    (first : members.lookup k = some (.str x)) (second : members.lookup l = some (.str y)) :
    lacking known k x + lacking known l y + rest.length ≤ s.length := by
  obtain ⟨key, afterKey, value, afterValue, named, valued, ending⟩ := yields_readMembers_iff.mp read
  -- one member may be what is lacking of one of the keys, and not of both
  have step {mark : Char} {later : List Char} (front : skipGap afterValue = mark :: later) :
      lacking known k x + lacking known l y + later.length ≤
        lacking (assign known key value) k x + lacking (assign known key value) l y + s.length := by
    have taken := lacking_of_member known named valued front
    by_cases same : k = key
    · subst same
      have := taken x
      rw [lacking_assign_of_ne (Ne.symm apart)]
      omega
    · rw [lacking_assign_of_ne same]
      by_cases also : l = key
      · subst also
        have := taken y
        omega
      · have keyLength := length_of_readKey named
        have gapLength := length_skipGap_le afterKey
        have markLength := length_lt_of_skipGap front
        obtain ⟨shorter, -⟩ := valued
        rw [lacking_assign_of_ne also]
        omega
  obtain ⟨front, rfl⟩ | ⟨later, front, run⟩ := ending
  · have taken := step front
    rw [lacking_of_lookup first, lacking_of_lookup second] at taken
    omega
  · have taken := step front
    have remaining := lacking_of_readMembers apart run first second
    have := length_skipGap_le later
    omega
termination_by s.length
decreasing_by
  have keyLength := length_of_readKey named
  have gapLength := length_skipGap_le afterKey
  have markLength := length_lt_of_skipGap front
  have laterLength := length_skipGap_le later
  obtain ⟨shorter, -⟩ := valued
  omega

/-- A text stands for itself when nothing is left for other members than what is still lacking. -/
theorem isPlain_of_lacking {most room : Nat} {known members : List (String × Json)}
    {r rest : List Char} {key other x y : String} (plain : IsPlain key) (apart : key ≠ other)
    (read : Yields (readMembers most room known (quote key ++ ':' :: (quote x ++ r))) members rest)
    (first : members.lookup key = some (.str x)) (second : members.lookup other = some (.str y))
    (left : r.length ≤ lacking known other y + 1) : IsPlain x := by
  obtain ⟨key', afterKey, value, afterValue, named, valued, ending⟩ := yields_readMembers_iff.mp read
  obtain ⟨rfl, rfl⟩ := (readKey_quote plain (quote x ++ r)).unique named
  rw [skipGap_quote, quote_append] at valued
  obtain ⟨v, rfl, text⟩ := exists_text_of_readValue valued
  have full : v.length + 1 + afterValue.length ≤ x.length + 1 + r.length := by
    have taken := length_of_readText text
    rw [List.length_append, List.length_cons, String.length_toList, String.length_toList] at taken
    omega
  -- it is this member that gives the text, and the one behind it takes all that is left
  have given : v = x ∧ r.length ≤ afterValue.length := by
    obtain ⟨front, rfl⟩ | ⟨later, front, run⟩ := ending
    · have markLength := length_lt_of_skipGap front
      rw [lookup_assign_self] at first
      have found : lacking known other y = 0 := by
        rw [lookup_assign_of_ne (Ne.symm apart)] at second
        exact lacking_of_lookup second
      exact ⟨Json.str.inj (Option.some.inj first), by omega⟩
    · have markLength := length_lt_of_skipGap front
      have laterLength := length_skipGap_le later
      have remaining := lacking_of_readMembers apart run first second
      rw [lacking_assign_of_ne (Ne.symm apart)] at remaining
      have same : v = x := by
        by_contra differ
        have still : lacking (assign known key (.str v)) key x = key.length + x.length + 6 := by
          rw [lacking, lookup_assign_self,
            if_neg fun found => differ (Json.str.inj (Option.some.inj found))]
        omega
      exact ⟨same, by omega⟩
  obtain ⟨rfl, tight⟩ := given
  obtain less | ⟨plains, -⟩ := readText_shortens text
  · rw [List.length_append, List.length_cons, String.length_toList] at less
    omega
  · exact plains

end AccessControl.Json
