import AccessControl.Proofs.Json.RoundTrip
import AccessControl.Proofs.Text.Ascii

/-!
# Reading back documents

What is written of a value without floating-point numbers is an ASCII text: everything else is
escaped. So its octets are taken for UTF-8 and read as the value again.
-/
namespace AccessControl.Json

theorem isAscii_hex (width n : Nat) : Text.IsAscii (Text.hex width n) := by
  induction width generalizing n with
  | zero =>
    intro c member
    cases member
  | succ width ih =>
    have digit : ∀ d < 16, 0 < (Nat.digitChar d).toNat ∧ (Nat.digitChar d).toNat < 0x80 := by decide
    rw [Text.hex, Text.isAscii_append]
    refine ⟨ih (n / 16), fun c last => ?_⟩
    rw [List.mem_singleton.mp last]
    exact digit (n % 16) (Nat.mod_lt n (by decide))

theorem isAscii_unitEscape (unit : Nat) : Text.IsAscii (unitEscape unit) := by
  rw [unitEscape, Text.isAscii_cons, Text.isAscii_cons]
  exact ⟨by decide, by decide, isAscii_hex 4 unit⟩

theorem isAscii_writePoint (n : Nat) : Text.IsAscii (writePoint n) := by
  unfold writePoint
  dsimp only
  split_ifs with quote feed return_ tab back page plain first
  · obtain quote | slash := quote
    · rw [quote]
      decide
    · rw [slash]
      decide
  · decide
  · decide
  · decide
  · decide
  · decide
  · intro c only
    have number : (Char.ofNat n).toNat = n := Text.toNat_ofNat (Or.inl (by omega))
    rw [List.mem_singleton.mp only, number]
    omega
  · exact isAscii_unitEscape n
  · exact Text.isAscii_append.mpr ⟨isAscii_unitEscape _, isAscii_unitEscape _⟩

theorem isAscii_writeText (s : String) : Text.IsAscii (writeText s) := by
  have points : Text.IsAscii ((Text.codePoints s.toList).flatMap writePoint) := by
    intro c member
    obtain ⟨n, -, written⟩ := List.mem_flatMap.mp member
    exact isAscii_writePoint n c written
  exact Text.isAscii_append.mpr ⟨Text.isAscii_cons.mpr ⟨by decide, points⟩, by decide⟩

theorem isAscii_toDigits (n : Nat) : Text.IsAscii (Nat.toDigits 10 n) := by
  intro c member
  have digit : c.isDigit = true := Nat.isDigit_of_mem_toDigits (by decide) (by decide) member
  rw [Char.isDigit, Bool.and_eq_true, decide_eq_true_iff, decide_eq_true_iff] at digit
  have low : 48 ≤ c.toNat := digit.1
  have high : c.toNat ≤ 57 := digit.2
  omega

theorem isAscii_repr (n : Int) : Text.IsAscii n.repr.toList := by
  cases n with
  | ofNat m =>
    rw [Int.repr, Nat.toList_repr]
    exact isAscii_toDigits m
  | negSucc m =>
    rw [toList_repr_negSucc]
    exact Text.isAscii_cons.mpr ⟨by decide, isAscii_toDigits (m + 1)⟩

mutual

/-- The text of a value is an ASCII text. -/
theorem isAscii_write : ∀ v : Json, v.isFloatFree = true → Text.IsAscii (write .compact v)
  | .null, _ => by decide
  | .bool true, _ => by decide
  | .bool false, _ => by decide
  | .int n, _ => by
    rw [write]
    exact isAscii_repr n
  | .float _, floatFree => nomatch floatFree
  | .str text, _ => by
    rw [write]
    exact isAscii_writeText text
  | .arr items, floatFree => by
    rw [write]
    exact Text.isAscii_append.mpr
      ⟨Text.isAscii_cons.mpr ⟨by decide, isAscii_writeItems items floatFree⟩, by decide⟩
  | .obj members, floatFree => by
    rw [write]
    exact Text.isAscii_append.mpr
      ⟨Text.isAscii_cons.mpr ⟨by decide, isAscii_writeMembers members floatFree⟩, by decide⟩

theorem isAscii_writeItems : ∀ items : List Json, allFloatFree items = true →
    Text.IsAscii (writeItems .compact items)
  | [], _ => by decide
  | [item], floatFree => by
    rw [allFloatFree, Bool.and_eq_true] at floatFree
    rw [writeItems]
    exact isAscii_write item floatFree.1
  | item :: next :: items, floatFree => by
    rw [allFloatFree, Bool.and_eq_true] at floatFree
    rw [writeItems, Text.isAscii_append, Text.isAscii_append]
    · exact ⟨⟨isAscii_write item floatFree.1, by decide⟩,
        isAscii_writeItems (next :: items) floatFree.2⟩
    · exact List.cons_ne_nil next items

theorem isAscii_writeMembers : ∀ members : List (String × Json), membersFloatFree members = true →
    Text.IsAscii (writeMembers .compact members)
  | [], _ => by decide
  | [(key, value)], floatFree => by
    rw [membersFloatFree, Bool.and_eq_true] at floatFree
    rw [writeMembers, Text.isAscii_append, Text.isAscii_append]
    exact ⟨⟨isAscii_writeText key, by decide⟩, isAscii_write value floatFree.1⟩
  | (key, value) :: next :: members, floatFree => by
    rw [membersFloatFree, Bool.and_eq_true] at floatFree
    rw [writeMembers, Text.isAscii_append, Text.isAscii_append, Text.isAscii_append,
      Text.isAscii_append]
    · exact ⟨⟨⟨⟨isAscii_writeText key, by decide⟩, isAscii_write value floatFree.1⟩, by decide⟩,
        isAscii_writeMembers (next :: members) floatFree.2⟩
    · exact List.cons_ne_nil next members

end

/-- A value is read back from the octets of its text. -/
theorem ofDocument_write {room : Nat} {v : Json} (floatFree : v.isFloatFree = true)
    (regular : v.isRegular = true) (short : v.digits ≤ Text.maxDigits) (fits : v.depth ≤ room) :
    ofDocument room (Utf8.encode (write .compact v)) = .ok v := by
  rw [ofDocument, documentText_ascii (isAscii_write v floatFree)]
  dsimp only
  rw [readWithin_write floatFree regular short fits]

end AccessControl.Json
