import AccessControl.Proofs.Text.Ascii
import AccessControl.Text.Base64Url

/-!
# Reading back base64url

Octets that are written in letters are read back. A letter is read as the six bits that it is
written for; so the proof goes through the groups of three octets, the last of which may be short.
-/
namespace AccessControl.Base64Url

theorem sextet?_letter {n : Nat} (small : n < 64) : sextet? (letter n) = some n := by
  have each : ∀ m < 64, sextet? (letter m) = some m := by decide
  exact each n small

/-- A letter is an ASCII character, and neither a point nor filling. -/
theorem letter_plain (n : Nat) :
    (0 < (letter n).toNat ∧ (letter n).toNat < 0x80) ∧ letter n ≠ '.' ∧ letter n ≠ '=' := by
  by_cases small : n < 64
  · have each : ∀ m < 64, (0 < (letter m).toNat ∧ (letter m).toNat < 0x80) ∧ letter m ≠ '.' ∧
        letter m ≠ '=' := by decide
    exact each n small
  · have last : letter n = '_' := by
      unfold letter
      rw [if_neg (by omega), if_neg (by omega), if_neg (by omega), if_neg (by omega)]
    rw [last]
    decide

/-- An octet from its upper and its lower bits, which are taken from two sextets. -/
theorem toUInt8_toNat {a : UInt8} {n : Nat} (same : n = a.toNat) : n.toUInt8 = a := by
  rw [same]
  exact UInt8.ofNat_toNat

theorem lastOne_letters (a : UInt8) :
    lastOne (letter (a.toNat / 4)) (letter (a.toNat % 4 * 16)) = some [a] := by
  have bound := a.toNat_lt
  have spare : a.toNat % 4 * 16 % 16 = 0 := by omega
  have first : (a.toNat / 4 * 4 + a.toNat % 4 * 16 / 16).toUInt8 = a := toUInt8_toNat (by omega)
  rw [lastOne, sextet?_letter (by omega), sextet?_letter (by omega)]
  simp only [Option.bind_eq_bind, Option.bind_some, spare, if_true, first]

theorem lastTwo_letters (a b : UInt8) :
    lastTwo (letter (a.toNat / 4)) (letter (a.toNat % 4 * 16 + b.toNat / 16))
      (letter (b.toNat % 16 * 4)) = some [a, b] := by
  have boundA := a.toNat_lt
  have boundB := b.toNat_lt
  have spare : b.toNat % 16 * 4 % 4 = 0 := by omega
  have first : (a.toNat / 4 * 4 + (a.toNat % 4 * 16 + b.toNat / 16) / 16).toUInt8 = a :=
    toUInt8_toNat (by omega)
  have second : ((a.toNat % 4 * 16 + b.toNat / 16) % 16 * 16 + b.toNat % 16 * 4 / 4).toUInt8 = b :=
    toUInt8_toNat (by omega)
  rw [lastTwo, sextet?_letter (by omega), sextet?_letter (by omega), sextet?_letter (by omega)]
  simp only [Option.bind_eq_bind, Option.bind_some, spare, if_true, first, second]

/-- Four letters in front are one group, whatever follows: none of them is filling. -/
theorem decode_letters (a b c : UInt8) (rest : List Char) :
    decode (letter (a.toNat / 4) :: letter (a.toNat % 4 * 16 + b.toNat / 16) ::
      letter (b.toNat % 16 * 4 + c.toNat / 64) :: letter (c.toNat % 64) :: rest) =
    (decode rest).map fun bytes => a :: b :: c :: bytes := by
  have boundA := a.toNat_lt
  have boundB := b.toNat_lt
  have boundC := c.toNat_lt
  have first : (a.toNat / 4 * 4 + (a.toNat % 4 * 16 + b.toNat / 16) / 16).toUInt8 = a :=
    toUInt8_toNat (by omega)
  have second : ((a.toNat % 4 * 16 + b.toNat / 16) % 16 * 16 +
      (b.toNat % 16 * 4 + c.toNat / 64) / 4).toUInt8 = b := toUInt8_toNat (by omega)
  have third : ((b.toNat % 16 * 4 + c.toNat / 64) % 4 * 64 + c.toNat % 64).toUInt8 = c :=
    toUInt8_toNat (by omega)
  rw [decode]
  · rw [sextet?_letter (by omega), sextet?_letter (by omega), sextet?_letter (by omega),
      sextet?_letter (by omega)]
    simp only [Option.bind_eq_bind, Option.bind_some, first, second, third]
    cases decode rest <;> rfl
  · intro _ filling
    exact absurd filling (letter_plain _).2.2
  · intro filling
    exact absurd filling (letter_plain _).2.2

/-- What is written is read back. -/
theorem decode_encode (bytes : Bytes) : decode (encode bytes) = some bytes := by
  fun_induction encode bytes with
  | case1 => rfl
  | case2 a => exact lastOne_letters a
  | case3 a b =>
    rw [decode]
    exact lastTwo_letters a b
  | case4 a b c rest ih => rw [decode_letters, ih, Option.map_some]

/-- The characters of written octets are letters. -/
theorem exists_letter_of_mem {bytes : Bytes} {c : Char} (h : c ∈ encode bytes) :
    ∃ n, c = letter n := by
  fun_induction encode bytes with
  | case1 => cases h
  | case2 a =>
    simp only [List.mem_cons, List.not_mem_nil, or_false] at h
    obtain same | same := h <;> exact ⟨_, same⟩
  | case3 a b =>
    simp only [List.mem_cons, List.not_mem_nil, or_false] at h
    obtain same | same | same := h <;> exact ⟨_, same⟩
  | case4 a b c rest ih =>
    simp only [List.mem_cons] at h
    obtain same | same | same | same | later := h
    · exact ⟨_, same⟩
    · exact ⟨_, same⟩
    · exact ⟨_, same⟩
    · exact ⟨_, same⟩
    · exact ih later

theorem isAscii_encode (bytes : Bytes) : Text.IsAscii (encode bytes) := by
  intro c member
  obtain ⟨n, rfl⟩ := exists_letter_of_mem member
  exact (letter_plain n).1

theorem point_not_mem_encode (bytes : Bytes) : '.' ∉ encode bytes := by
  intro member
  obtain ⟨n, same⟩ := exists_letter_of_mem member
  exact (letter_plain n).2.1 same.symm

end AccessControl.Base64Url
