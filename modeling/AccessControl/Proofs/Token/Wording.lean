import AccessControl.Proofs.Json.Documents
import AccessControl.Proofs.Token.Refusals

/-!
# The wording of refusals

What the library says of a header in its own words is in ASCII, so that it can be sent. A refusal that
repeats a name from the token can be sent when the name can.
-/
namespace AccessControl

namespace Text

theorem isAscii_str_append {s t : String} :
    IsAscii (s ++ t).toList ↔ IsAscii s.toList ∧ IsAscii t.toList := by
  rw [String.toList_append, isAscii_append]

theorem isAscii_natRepr (n : Nat) : IsAscii n.repr.toList := by
  rw [Nat.toList_repr]
  exact Json.isAscii_toDigits n

theorem isAscii_str_hex (width n : Nat) : IsAscii (String.ofList (hex width n)).toList := by
  rw [String.toList_ofList]
  exact Json.isAscii_hex width n

/-- In front of a text ASCII characters are code points of their own. -/
theorem isEncodable_append {s t : String} (ascii : IsAscii s.toList) :
    isEncodable (s ++ t) = isEncodable t := by
  have points : ∀ cs ds : List Char, IsAscii cs →
      codePoints (cs ++ ds) = cs.map Char.toNat ++ codePoints ds := by
    intro cs ds plain
    induction cs with
    | nil => rfl
    | cons c rest ih =>
      obtain ⟨first, others⟩ := isAscii_cons.mp plain
      have unlike : c ≠ mark := by
        rintro rfl
        exact absurd first.2 (by decide)
      rw [List.cons_append, codePoints_cons unlike, ih others, List.map_cons, List.cons_append]
  have whole : (s.toList.map Char.toNat).all (fun n => !isSurrogate n) = true := by
    rw [List.all_map, List.all_eq_true]
    intro c _
    simpa using not_isSurrogate_toNat c
  rw [isEncodable, isEncodable, String.toList_append, points _ _ ascii, List.all_append, whole,
    Bool.true_and]

theorem isEncodable_of_isAscii {s : String} (ascii : IsAscii s.toList) : isEncodable s = true := by
  have whole := isEncodable_ascii ascii
  rwa [String.ofList_toList] at whole

end Text

open Text

theorem DecodeError.isAscii_message (e : DecodeError) : IsAscii e.message.toList := by
  have name : IsAscii e.encoding.text.toList := by
    cases e.encoding with
    | utf8 => decide +kernel
    | utf16 order => cases order <;> decide +kernel
    | utf32 order => cases order <;> decide +kernel
  have fault : IsAscii e.fault.text.toList := by cases e.fault <;> decide +kernel
  rw [message]
  simp only [isAscii_str_append, name, fault, and_true]
  split
  · simp only [isAscii_str_append, isAscii_natRepr, isAscii_str_hex, and_true]
    decide +kernel
  · simp only [isAscii_str_append, isAscii_natRepr, and_true]
    decide +kernel

theorem Json.isAscii_placeText (text : List Char) (left : Nat) :
    IsAscii (placeText text left).toList := by
  rw [placeText]
  simp only [isAscii_str_append, isAscii_natRepr, and_true]
  decide +kernel

theorem Json.ReadError.isAscii_message (text : List Char) (e : Json.ReadError) :
    IsAscii (e.message text).toList := by
  cases e with
  | malformed fault left =>
    have wording : IsAscii fault.text.toList := by cases fault <;> decide +kernel
    have shown : (ReadError.malformed fault left).message text =
        fault.text ++ ": " ++ placeText text left := rfl
    rw [shown, isAscii_str_append, isAscii_str_append]
    exact ⟨⟨wording, by decide +kernel⟩, isAscii_placeText text left⟩
  | tooLong digits =>
    have shown : (ReadError.tooLong digits).message text =
        "Exceeds the limit (" ++ Text.maxDigits.repr ++
          " digits) for integer string conversion: value has " ++ digits.repr ++
          " digits; use sys.set_int_max_str_digits() to increase the limit" := rfl
    rw [shown]
    simp only [isAscii_str_append, isAscii_natRepr, and_true]
    decide +kernel
  | tooDeep container =>
    have kind : IsAscii container.text.toList := by cases container <;> decide +kernel
    have shown : (ReadError.tooDeep container).message text =
        "maximum recursion depth exceeded while decoding a JSON " ++ container.text ++
          " from a unicode string" := rfl
    rw [shown, isAscii_str_append, isAscii_str_append]
    exact ⟨⟨by decide +kernel, kind⟩, by decide +kernel⟩

/-- The wording of a fault that repeats nothing is in ASCII. -/
theorem TokenFault.isAscii_text {fault : TokenFault} (nothing : fault.quoted? = none) :
    IsAscii fault.text.toList := by
  cases fault with
  | unknownCritical name => cases nothing
  | absentCritical name => cases nothing
  | undecodable s => cases s <;> decide +kernel
  | notObject s => cases s <;> decide +kernel
  | notWhole claim => cases claim <;> decide +kernel
  | tooEarly claim => cases claim <;> decide +kernel
  | unreadable s e =>
    have title : IsAscii s.title.toList := by cases s <;> decide +kernel
    have message : IsAscii e.message.toList := by
      cases e with
      | encoding e => exact e.isAscii_message
      | unread text e => exact e.isAscii_message text
    have shown : (TokenFault.unreadable s e).text =
        "Invalid " ++ s.title ++ " string: " ++ e.message := rfl
    rw [shown, isAscii_str_append, isAscii_str_append, isAscii_str_append]
    exact ⟨⟨⟨by decide +kernel, title⟩, by decide +kernel⟩, message⟩
  | _ => decide +kernel

/-- The refusal can be sent: it repeats no name that cannot. -/
def Refusal.isSayable : Refusal → Bool
  | .invalid (.unknownCritical name) => isEncodable name
  | _ => true

theorem Refusal.isEncodable_text {refusal : Refusal} (tame : Token.IsTame refusal) :
    isEncodable refusal.failure.text = refusal.isSayable := by
  cases refusal with
  | noHeader => decide +kernel
  | noBearer => decide +kernel
  | expired => decide +kernel
  | noUser => decide +kernel
  | invalid fault =>
    have wording : (Refusal.invalid fault).failure.text = "Invalid token: " ++ fault.text := rfl
    rw [wording, isEncodable_append (by decide +kernel)]
    cases quoted : fault.quoted? with
    | none =>
      rw [isEncodable_of_isAscii (TokenFault.isAscii_text quoted)]
      cases fault <;> first | rfl | cases quoted
    | some name =>
      obtain rfl | rfl := tame fault rfl name quoted
      · exact isEncodable_append (by decide +kernel)
      · cases fault with
        | unknownCritical given => exact isEncodable_append (by decide +kernel)
        | absentCritical given =>
          cases quoted
          decide +kernel
        | _ => cases quoted

end AccessControl
