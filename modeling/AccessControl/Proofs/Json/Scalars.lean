import AccessControl.Json.Digits
import AccessControl.Proofs.Json.QuotedText

/-!
# Reading back literal words and whole numbers

Words and whole numbers that are written are read back, in front of anything that does not go on
with a number. A number is written without leading zeros, so the reader, which takes a zero in front
for the whole number, reads all of its digits.
-/
namespace AccessControl.Json

/-- What may follow a value: nothing, or a mark that ends it. -/
inductive Follows : List Char → Prop
  | nothing : Follows []
  | mark {c : Char} {rest : List Char} (h : c = ',' ∨ c = ']' ∨ c = '\x7d') : Follows (c :: rest)

/-- A mark that ends a value is no digit and goes on with no number. -/
theorem Follows.not_number {c : Char} {rest : List Char} (h : Follows (c :: rest)) :
    c.isDigit = false ∧ c ≠ '.' ∧ c ≠ 'e' ∧ c ≠ 'E' := by
  cases h with
  | mark h => obtain rfl | rfl | rfl := h <;> decide

theorem Follows.span_digits {rest : List Char} (follows : Follows rest) {digits : List Char}
    (areDigits : ∀ c ∈ digits, c.isDigit = true) :
    (digits ++ rest).takeWhile Char.isDigit = digits ∧
      (digits ++ rest).dropWhile Char.isDigit = rest := by
  have stop : rest.takeWhile Char.isDigit = [] ∧ rest.dropWhile Char.isDigit = rest := by
    cases rest with
    | nil => exact ⟨rfl, rfl⟩
    | cons c rest =>
      have ended := Bool.eq_false_iff.mp follows.not_number.1
      exact ⟨List.takeWhile_cons_of_neg ended, List.dropWhile_cons_of_neg ended⟩
  rw [List.takeWhile_append_of_pos areDigits, List.dropWhile_append_of_pos areDigits, stop.1, stop.2,
    List.append_nil]
  exact ⟨rfl, rfl⟩

theorem Follows.no_places {rest : List Char} (follows : Follows rest) :
    places? rest = none ∧ exponent? rest = none := by
  cases rest with
  | nil => exact ⟨rfl, rfl⟩
  | cons c rest =>
    obtain ⟨-, point, small, large⟩ := follows.not_number
    constructor
    · rw [places?]
      exact fun _ same => absurd (List.cons.inj same).1 point
    · rw [exponent?]
      · exact fun _ same => absurd (List.cons.inj same).1 small
      · exact fun _ same => absurd (List.cons.inj same).1 large

/-- A number that is not zero is written with another digit than zero in front. -/
theorem toDigits_head {n : Nat} (positive : 0 < n) :
    ∃ d ds, Nat.toDigits 10 n = d :: ds ∧ d ≠ '0' := by
  induction n using Nat.strongRecOn with
  | _ n ih =>
    by_cases small : n < 10
    · refine ⟨n.digitChar, [], Nat.toDigits_of_lt_base small, fun zero => ?_⟩
      have number := congrArg Char.toNat zero
      rw [Nat.toNat_digitChar_of_lt_ten small] at number
      change 48 + n = 48 at number
      omega
    · obtain ⟨d, ds, front, nonzero⟩ := ih (n / 10) (by omega) (by omega)
      refine ⟨d, ds ++ [(n % 10).digitChar], ?_, nonzero⟩
      rw [Nat.toDigits_eq_if (by decide), if_neg small, front, List.cons_append]

/-- The whole digits at the front of a text are all the digits of the number that is written. -/
theorem whole?_toDigits (n : Nat) {rest : List Char} (follows : Follows rest) :
    ∃ shorter, whole? (Nat.toDigits 10 n ++ rest) = some ⟨Nat.toDigits 10 n, rest, shorter⟩ := by
  by_cases zero : n = 0
  · rw [zero]
    exact ⟨_, rfl⟩
  · obtain ⟨d, ds, written, nonzero⟩ := toDigits_head (Nat.pos_of_ne_zero zero)
    have areDigits : ∀ c ∈ Nat.toDigits 10 n, c.isDigit = true := fun c member =>
      Nat.isDigit_of_mem_toDigits (by decide) (by decide) member
    obtain ⟨taken, dropped⟩ := follows.span_digits areDigits
    rw [written] at taken dropped ⊢
    rw [List.cons_append] at taken dropped ⊢
    have shorter : rest.length < (d :: (ds ++ rest)).length := by
      rw [List.length_cons, List.length_append]
      omega
    refine ⟨shorter, ?_⟩
    rw [whole?, digits?]
    · simp [taken, dropped]
    · exact fun _ same => absurd (List.cons.inj same).1 nonzero

theorem number?_toDigits (negative : Bool) (n : Nat) {rest : List Char} (follows : Follows rest) :
    ∃ shorter, number? negative (Nat.toDigits 10 n ++ rest) =
      some ⟨.int (if negative then -(n : Int) else n), rest, shorter⟩ := by
  obtain ⟨shorter, whole⟩ := whole?_toDigits n follows
  have value : digitsValue (Nat.toDigits 10 n) = n :=
    Nat.ofDigitChars_toDigits (by decide) (by decide)
  refine ⟨shorter, ?_⟩
  rw [number?, whole]
  simp only [follows.no_places, value]

theorem exists_toDigits_eq_cons (n : Nat) :
    ∃ d ds, Nat.toDigits 10 n = d :: ds ∧ d.isDigit = true := by
  obtain ⟨d, ds, written⟩ := List.exists_cons_of_ne_nil (Nat.toDigits_ne_nil (n := n) (b := 10))
  have digit : d.isDigit = true :=
    Nat.isDigit_of_mem_toDigits (by decide) (by decide) (written ▸ List.mem_cons_self ..)
  exact ⟨d, ds, written, digit⟩

theorem toList_repr_negSucc (m : Nat) :
    (Int.negSucc m).repr.toList = '-' :: Nat.toDigits 10 (m + 1) := by
  rw [Int.repr, String.toList_append, Nat.toList_repr]
  rfl

theorem exists_repr_eq_cons (n : Int) :
    ∃ c cs, n.repr.toList = c :: cs ∧ (c = '-' ∨ c.isDigit = true) := by
  cases n with
  | ofNat m =>
    obtain ⟨d, ds, written, digit⟩ := exists_toDigits_eq_cons m
    exact ⟨d, ds, by rw [Int.repr, Nat.toList_repr, written], Or.inr digit⟩
  | negSucc m => exact ⟨'-', _, toList_repr_negSucc m, Or.inl rfl⟩

theorem ne_of_isDigit {c d : Char} (digit : c.isDigit = true) (other : d.isDigit = false) :
    c ≠ d := by
  rintro rfl
  rw [other] at digit
  cases digit

/-- A digit starts neither a word nor a sign. -/
theorem scalar?_digit {d : Char} (digit : d.isDigit = true) (cs : List Char) :
    scalar? (d :: cs) = number? false (d :: cs) ∧
      scalar? ('-' :: d :: cs) =
        (number? true (d :: cs)).map fun t => ⟨t.value, t.rest, by
          have := t.shorter; simp only [List.length_cons] at this ⊢; omega⟩ := by
  have other : ∀ c : Char, c.isDigit = false → d ≠ c := fun c => ne_of_isDigit digit
  constructor
  · rw [scalar?]
    · exact fun _ same => absurd (List.cons.inj same).1 (other 'n' (by decide))
    · exact fun _ same => absurd (List.cons.inj same).1 (other 't' (by decide))
    · exact fun _ same => absurd (List.cons.inj same).1 (other 'f' (by decide))
    · exact fun _ same => absurd (List.cons.inj same).1 (other 'N' (by decide))
    · exact fun _ same => absurd (List.cons.inj same).1 (other 'I' (by decide))
    · exact fun _ same => absurd (List.cons.inj same).1 (other '-' (by decide))
    · exact fun _ same => absurd (List.cons.inj same).1 (other '-' (by decide))
  · rw [scalar?]
    exact fun _ same => absurd (List.cons.inj same).1 (other 'I' (by decide))

/-- The digits of a number, with a minus in front of a negative one, are the number. -/
theorem scalar?_repr (n : Int) {rest : List Char} (follows : Follows rest) :
    ∃ shorter, scalar? (n.repr.toList ++ rest) = some ⟨.int n, rest, shorter⟩ := by
  cases n with
  | ofNat m =>
    obtain ⟨d, ds, written, digit⟩ := exists_toDigits_eq_cons m
    have number := number?_toDigits false m follows
    rw [Int.repr, Nat.toList_repr]
    rw [written, List.cons_append] at number ⊢
    rw [(scalar?_digit digit (ds ++ rest)).1]
    exact number
  | negSucc m =>
    obtain ⟨d, ds, written, digit⟩ := exists_toDigits_eq_cons (m + 1)
    have number := number?_toDigits true (m + 1) follows
    rw [toList_repr_negSucc, List.cons_append]
    rw [written, List.cons_append] at number ⊢
    obtain ⟨shorter, number⟩ := number
    rw [(scalar?_digit digit (ds ++ rest)).2, number, Option.map_some]
    exact ⟨_, rfl⟩

/-- A whole number is read back, when it has no more digits than are read. -/
theorem readScalar_int {most : Nat} {n : Int} (short : (Nat.toDigits 10 n.natAbs).length ≤ most)
    {rest : List Char} (follows : Follows rest) :
    Yields (readScalar most (n.repr.toList ++ rest)) (.int n) rest := by
  obtain ⟨shorter, read⟩ := scalar?_repr n follows
  refine ⟨shorter, ?_⟩
  rw [readScalar, read]
  simp only [if_neg (Nat.not_lt.mpr short)]

end AccessControl.Json
