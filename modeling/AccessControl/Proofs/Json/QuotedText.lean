import AccessControl.Json.Reader
import AccessControl.Json.Writer
import Mathlib.Data.List.Chain

/-!
# Reading back quoted texts

A text that is written in quotes is read back, unless the two halves of a surrogate pair stand side
by side in it: written down they are the pair, which is read as one character. `textStep_writePoint`
is the step, the escape of one code point, and `readText_points` the run.
-/
namespace AccessControl

open Utf16

/-- Code points that are written apart are read apart: no half that opens a pair stands in front of
one that closes it. -/
def Text.Apart (m n : Nat) : Prop := ¬ (isHighSurrogate m = true ∧ isLowSurrogate n = true)

instance (m n : Nat) : Decidable (Text.Apart m n) := inferInstanceAs (Decidable (¬ _))

/-- Every code point of the text is one, and the halves of a surrogate pair do not stand side by
side. -/
def Text.IsJoined (s : String) : Prop :=
  (∀ n ∈ codePoints s.toList, n < looseMark) ∧ (codePoints s.toList).IsChain Apart

instance (s : String) : Decidable (Text.IsJoined s) := inferInstanceAs (Decidable (_ ∧ _))

namespace Json

/-- The value is read from the front of a text, and the rest is left. -/
def Yields {α : Type} {s : List Char} (result : Except ReadError (Reading α s)) (value : α)
    (rest : List Char) : Prop :=
  ∃ shorter, result = .ok ⟨value, rest, shorter⟩

/-! ### Escapes -/

theorem hexValue?_digitChar {d : Nat} (small : d < 16) :
    hexValue? (Nat.digitChar d) = some d := by
  have each : ∀ n < 16, hexValue? (Nat.digitChar n) = some n := by decide
  exact each d small

theorem hex_four (n : Nat) :
    Text.hex 4 n = [Nat.digitChar (n / 16 / 16 / 16 % 16), Nat.digitChar (n / 16 / 16 % 16),
      Nat.digitChar (n / 16 % 16), Nat.digitChar (n % 16)] := rfl

theorem unit?_hex {n : Nat} (small : n < 0x10000) :
    unit? (Nat.digitChar (n / 16 / 16 / 16 % 16)) (Nat.digitChar (n / 16 / 16 % 16))
      (Nat.digitChar (n / 16 % 16)) (Nat.digitChar (n % 16)) = some n := by
  have value : ((n / 16 / 16 / 16 % 16 * 16 + n / 16 / 16 % 16) * 16 + n / 16 % 16) * 16 + n % 16 =
      n := by omega
  have digit : ∀ m, m % 16 < 16 := fun m => Nat.mod_lt m (by decide)
  rw [unit?, hexValue?_digitChar (digit _), hexValue?_digitChar (digit _),
    hexValue?_digitChar (digit _), hexValue?_digitChar (digit _)]
  simp only [Option.bind_eq_bind, Option.bind_some, value]
  rfl

/-- A text that starts with the escape of a unit starts with one that closes no pair. -/
def LoneBefore (tail : List Char) : Prop :=
  ∀ a b c d rest, tail = '\\' :: 'u' :: a :: b :: c :: d :: rest →
    ∃ unit, unit? a b c d = some unit ∧ isLowSurrogate unit = false

theorem loneBefore_of_ne {c d : Char} (other : ¬ (c = '\\' ∧ d = 'u')) (tail : List Char) :
    LoneBefore (c :: d :: tail) := by
  rintro x y z w rest same
  simp only [List.cons.injEq] at same
  exact absurd ⟨same.1, same.2.1⟩ other

theorem loneBefore_of_head_ne {c : Char} (other : c ≠ '\\') (tail : List Char) :
    LoneBefore (c :: tail) := by
  rintro x y z w rest same
  simp only [List.cons.injEq] at same
  exact absurd same.1 other

theorem loneBefore_unitEscape {n : Nat} (small : n < 0x10000) (high : isLowSurrogate n = false)
    (tail : List Char) : LoneBefore (unitEscape n ++ tail) := by
  intro a b c d rest same
  rw [unitEscape, hex_four] at same
  simp only [List.cons_append, List.nil_append, List.cons.injEq, true_and] at same
  obtain ⟨rfl, rfl, rfl, rfl, -⟩ := same
  exact ⟨n, unit?_hex small, high⟩

def TextStep.Reads {s : List Char} (step : TextStep s) (cs rest : List Char) : Prop :=
  ∃ shorter, step = .part cs rest shorter

/-- The escape of one unit is read on its own where no pair is closed behind it. -/
theorem textStep_unitEscape (opened : Nat) {n : Nat} (small : n < 0x10000) {tail : List Char}
    (more : tail ≠ []) (lone : isHighSurrogate n = true → LoneBefore tail) :
    (textStep opened (unitEscape n ++ tail)).Reads (Text.spelled n) tail := by
  rw [unitEscape, hex_four]
  simp only [List.cons_append, List.nil_append]
  by_cases followed : ∃ a b c d e rest, tail = '\\' :: 'u' :: a :: b :: c :: d :: e :: rest
  · obtain ⟨a, b, c, d, e, rest, rfl⟩ := followed
    simp only [textStep, unit?_hex small]
    by_cases opens : isHighSurrogate n = true
    · obtain ⟨low, read, alone⟩ := lone opens a b c d (e :: rest) rfl
      simp only [opens, if_true, read, alone, Bool.false_eq_true, if_false]
      exact ⟨_, rfl⟩
    · simp only [opens, if_false, Bool.false_eq_true]
      exact ⟨_, rfl⟩
  · have apart : ∀ a b c d e rest, ¬ tail = '\\' :: 'u' :: a :: b :: c :: d :: e :: rest :=
      fun a b c d e rest same => followed ⟨a, b, c, d, e, rest, same⟩
    rw [textStep]
    simp only [unit?_hex small]
    exact ⟨_, rfl⟩

theorem isHighSurrogate_iff {n : Nat} : isHighSurrogate n = true ↔ 0xD800 ≤ n ∧ n ≤ 0xDBFF := by
  rw [isHighSurrogate, Bool.and_eq_true, decide_eq_true_iff, decide_eq_true_iff]

theorem isLowSurrogate_iff {n : Nat} : isLowSurrogate n = true ↔ 0xDC00 ≤ n ∧ n ≤ 0xDFFF := by
  rw [isLowSurrogate, Bool.and_eq_true, decide_eq_true_iff, decide_eq_true_iff]

/-- The escapes of a pair are read together. -/
theorem textStep_pair (opened : Nat) {high low : Nat} (opens : isHighSurrogate high = true)
    (closes : isLowSurrogate low = true) {tail : List Char} (more : tail ≠ []) :
    (textStep opened (unitEscape high ++ (unitEscape low ++ tail))).Reads
      (Text.spelled (pairPoint high low)) tail := by
  have first := unit?_hex (n := high) (by have := isHighSurrogate_iff.mp opens; omega)
  have second := unit?_hex (n := low) (by have := isLowSurrogate_iff.mp closes; omega)
  obtain ⟨e, rest, rfl⟩ := List.exists_cons_of_ne_nil more
  rw [unitEscape, hex_four, unitEscape, hex_four]
  simp only [List.cons_append, List.nil_append, textStep, first, second, opens, closes, if_true]
  exact ⟨_, rfl⟩

/-! ### Code points -/

/-- A code point with the character of another is that one's. -/
theorem eq_of_ofNat_eq {n : Nat} {c : Char} (nonzero : c.toNat ≠ 0)
    (same : Char.ofNat n = c) : n = c.toNat := by
  by_cases isChar : n.isValidChar
  · rw [← same, Text.toNat_ofNat isChar]
  · rw [Char.ofNat, dif_neg isChar] at same
    rw [← same] at nonzero
    exact absurd rfl nonzero

theorem spelled_of_small {n : Nat} (small : n < 0xD800) : Text.spelled n = [Char.ofNat n] := by
  have whole : ¬ Text.isSurrogate n = true := by
    rw [Text.isSurrogate_iff]
    omega
  have unmarked : n ≠ Text.mark.toNat := by
    have mark : Text.mark.toNat = 0x10FFFF := by decide
    omega
  have tight : n ≠ Text.looseMark := by
    unfold Text.looseMark
    omega
  rw [Text.spelled, if_neg whole, if_neg unmarked, if_neg tight]

/-- What is written for a code point is read as it, unless it opens a pair that is closed behind
it. -/
theorem textStep_writePoint (opened : Nat) {n : Nat} (valid : n < 0x110000) {tail : List Char}
    (more : tail ≠ []) (lone : isHighSurrogate n = true → LoneBefore tail) :
    (textStep opened (writePoint n ++ tail)).Reads (Text.spelled n) tail := by
  have short : ∀ {e c : Char}, Char.ofNat n = c → c.toNat ≠ 0 → c.toNat < 0xD800 →
      shortEscape? e = some c → (textStep opened ('\\' :: e :: tail)).Reads (Text.spelled n) tail := by
    intro e c same nonzero small escape
    have point := eq_of_ofNat_eq nonzero same
    have plain : e ≠ 'u' := by
      rintro rfl
      cases escape
    rw [spelled_of_small (point ▸ small), same, textStep, escape]
    · exact ⟨_, rfl⟩
    · exact fun _ _ _ _ _ other _ => plain other
    · exact plain
  generalize written : writePoint n = cs
  unfold writePoint at written
  dsimp only at written
  split_ifs at written with quote feed return_ tab back page plain first <;> subst written
  · obtain quote | slash := quote
    · rw [quote]
      exact short quote (by decide) (by decide) rfl
    · rw [slash]
      exact short slash (by decide) (by decide) rfl
  · exact short feed (by decide) (by decide) rfl
  · exact short return_ (by decide) (by decide) rfl
  · exact short tab (by decide) (by decide) rfl
  · exact short back (by decide) (by decide) rfl
  · exact short page (by decide) (by decide) rfl
  · have number : (Char.ofNat n).toNat = n := Text.toNat_ofNat (Or.inl (by omega))
    have shown : ¬ (Char.ofNat n).toNat < 0x20 := by omega
    rw [not_or] at quote
    rw [spelled_of_small (by omega), List.singleton_append, textStep, if_neg shown]
    · exact ⟨_, rfl⟩
    · exact quote.1
    · exact fun _ _ _ _ _ slash _ => quote.2 slash
    · exact fun _ slash _ => quote.2 slash
    · exact fun _ _ slash _ => quote.2 slash
    · exact fun slash _ => quote.2 slash
  · exact textStep_unitEscape opened first more lone
  · rw [List.append_assoc]
    have point : pairPoint (0xD800 + (n - 0x10000) / 0x400) (0xDC00 + (n - 0x10000) % 0x400) = n := by
      unfold pairPoint
      omega
    have high : isHighSurrogate (0xD800 + (n - 0x10000) / 0x400) = true :=
      isHighSurrogate_iff.mpr (by omega)
    have low : isLowSurrogate (0xDC00 + (n - 0x10000) % 0x400) = true :=
      isLowSurrogate_iff.mpr (by omega)
    have pair := textStep_pair opened high low more
    rwa [point] at pair

/-- What is written for a code point that closes no pair closes none. -/
theorem loneBefore_writePoint {n : Nat} (valid : n < 0x110000) (open_ : isLowSurrogate n = false)
    (tail : List Char) : LoneBefore (writePoint n ++ tail) := by
  generalize written : writePoint n = cs
  unfold writePoint at written
  dsimp only at written
  split_ifs at written with quote feed return_ tab back page plain first <;> subst written
  · apply loneBefore_of_ne
    rintro ⟨-, same⟩
    rw [same] at quote
    exact absurd quote (by decide)
  · exact loneBefore_of_ne (by decide) _
  · exact loneBefore_of_ne (by decide) _
  · exact loneBefore_of_ne (by decide) _
  · exact loneBefore_of_ne (by decide) _
  · exact loneBefore_of_ne (by decide) _
  · rw [not_or] at quote
    exact loneBefore_of_head_ne quote.2 _
  · exact loneBefore_unitEscape first open_ _
  · rw [List.append_assoc]
    refine loneBefore_unitEscape (by omega) ?_ _
    rw [← Bool.not_eq_true, isLowSurrogate_iff]
    omega

/-! ### Texts -/

/-- Code points that are written one after the other are read as what spells them: the induction is
on the code points, and the next one tells how an escaped half is read. -/
theorem readText_points (opened : Nat) {points : List Nat} (valid : ∀ n ∈ points, n < 0x110000)
    (joined : points.IsChain Text.Apart) (rest : List Char) :
    Yields (readText opened (points.flatMap writePoint ++ '"' :: rest))
      (points.flatMap Text.spelled) rest := by
  induction points with
  | nil =>
    rw [List.flatMap_nil, List.nil_append, readText, textStep]
    exact ⟨_, rfl⟩
  | cons n points ih =>
    obtain ⟨first, others⟩ := List.forall_mem_cons.mp valid
    have more : points.flatMap writePoint ++ '"' :: rest ≠ [] := by simp
    have lone : isHighSurrogate n = true → LoneBefore (points.flatMap writePoint ++ '"' :: rest) := by
      intro opens
      cases points with
      | nil => exact loneBefore_of_head_ne (by decide) rest
      | cons m points =>
        have apart : Text.Apart n m := (List.isChain_cons_cons.mp joined).1
        have open_ : isLowSurrogate m = false := by
          rw [← Bool.not_eq_true]
          exact fun closes => apart ⟨opens, closes⟩
        rw [List.flatMap_cons, List.append_assoc]
        exact loneBefore_writePoint (others m (List.mem_cons_self ..)) open_ _
    obtain ⟨_, step⟩ := textStep_writePoint opened first more lone
    obtain ⟨_, run⟩ := ih others joined.tail
    rw [List.flatMap_cons, List.append_assoc, readText, step]
    simp only [run]
    exact ⟨_, rfl⟩

/-- A text in its quotes is read back. -/
theorem readText_writeText (opened : Nat) {s : String} (joined : Text.IsJoined s)
    (rest : List Char) :
    Yields (readText opened ((Text.codePoints s.toList).flatMap writePoint ++ '"' :: rest)) s.toList
      rest := by
  have run := readText_points opened joined.1 joined.2 rest
  rwa [Text.flatMap_spelled_codePoints] at run

end Json

end AccessControl
