import AccessControl.Json.Document

/-!
# ASCII texts

Tokens and the documents in them are written in ASCII. Each character of such a text is a code point
and an octet of its own, and a document in it is taken for UTF-8.
-/
namespace AccessControl

/-- Every character is an ASCII character other than the zero character. -/
def Text.IsAscii (cs : List Char) : Prop := ∀ c ∈ cs, 0 < c.toNat ∧ c.toNat < 0x80

namespace Text

instance (cs : List Char) : Decidable (IsAscii cs) :=
  List.decidableBAll (fun c : Char => 0 < c.toNat ∧ c.toNat < 0x80) cs

theorem isAscii_cons {c : Char} {cs : List Char} :
    IsAscii (c :: cs) ↔ (0 < c.toNat ∧ c.toNat < 0x80) ∧ IsAscii cs :=
  List.forall_mem_cons

theorem isAscii_append {cs ds : List Char} : IsAscii (cs ++ ds) ↔ IsAscii cs ∧ IsAscii ds :=
  List.forall_mem_append

theorem codePoints_ascii {cs : List Char} (ascii : IsAscii cs) :
    codePoints cs = cs.map Char.toNat := by
  induction cs with
  | nil => rfl
  | cons c rest ih =>
    obtain ⟨plain, others⟩ := isAscii_cons.mp ascii
    have unlike : c ≠ mark := by
      rintro rfl
      exact absurd plain.2 (by decide)
    rw [codePoints_cons unlike, ih others, List.map_cons]

theorem isEncodable_ascii {cs : List Char} (ascii : IsAscii cs) :
    isEncodable (String.ofList cs) = true := by
  rw [isEncodable, String.toList_ofList, codePoints_ascii ascii, List.all_map, List.all_eq_true]
  intro c _
  simpa using not_isSurrogate_toNat c

end Text

namespace Utf8

theorem encode_ascii {cs : List Char} (ascii : Text.IsAscii cs) :
    encode cs = cs.map fun c => c.toNat.toUInt8 := by
  rw [encode, Text.codePoints_ascii ascii, List.flatMap_map]
  induction cs with
  | nil => rfl
  | cons c rest ih =>
    obtain ⟨plain, others⟩ := Text.isAscii_cons.mp ascii
    rw [List.flatMap_cons, ih others, List.map_cons, encodePoint, if_pos plain.2,
      List.singleton_append]

theorem toNat_octet {c : Char} (small : c.toNat < 0x80) : c.toNat.toUInt8.toNat = c.toNat := by
  rw [Nat.toUInt8, UInt8.toNat_ofNat']
  omega

theorem octet_lt {c : Char} (small : c.toNat < 0x80) : c.toNat.toUInt8 < 0x80 := by
  rw [UInt8.lt_iff_toNat_lt, toNat_octet small]
  exact small

theorem decodeFrom_ascii {cs : List Char} (ascii : Text.IsAscii cs) (place : Nat) :
    decodeFrom place (cs.map fun c => c.toNat.toUInt8) = .ok cs := by
  induction cs generalizing place with
  | nil => rw [List.map_nil, decodeFrom.eq_def]
  | cons c rest ih =>
    obtain ⟨plain, others⟩ := Text.isAscii_cons.mp ascii
    rw [List.map_cons, decodeFrom.eq_def]
    dsimp only
    rw [if_pos (octet_lt plain.2), ih others, toNat_octet plain.2, Char.ofNat_toNat]
    rfl

end Utf8

namespace Json

/-- Octets of the lower half without a zero among them carry no mark and are taken for UTF-8. -/
theorem documentText_of_small {bytes : Bytes} (small : ∀ b ∈ bytes, b ≠ 0 ∧ b < 0x80) :
    documentText bytes = Utf8.decode bytes := by
  have unmarked : documentText bytes = unmarkedText bytes := by
    unfold documentText
    split
    all_goals first
      | exact absurd (small _ (List.mem_cons_self ..)) (by decide)
      | rfl
  rw [unmarked, unmarkedText.eq_def]
  split
  · rename_i a b c d rest
    rw [if_neg (small a (by simp)).1, if_neg (small b (by simp)).1]
  · exact absurd rfl (small 0 (by simp)).1
  · exact absurd rfl (small 0 (by simp)).1
  · rfl

/-- A document in ASCII is read as it was written. -/
theorem documentText_ascii {cs : List Char} (ascii : Text.IsAscii cs) :
    documentText (Utf8.encode cs) = .ok cs := by
  rw [Utf8.encode_ascii ascii, documentText_of_small]
  · exact Utf8.decodeFrom_ascii ascii 0
  · intro b listed
    obtain ⟨c, member, rfl⟩ := List.mem_map.mp listed
    have plain := ascii c member
    refine ⟨fun zero => ?_, Utf8.octet_lt plain.2⟩
    have octet := Utf8.toNat_octet plain.2
    rw [zero, UInt8.toNat_zero] at octet
    omega

end Json

end AccessControl
