import AccessControl.Json.Reader
import AccessControl.Text.Utf32
import AccessControl.Text.Utf8

/-!
# JSON documents

A JSON document arrives as octets in UTF-8, UTF-16 or UTF-32. A mark in front says which; without
one, the zero octets around the first characters do, as these are always in the lowest range.
-/
namespace AccessControl

/-- Why octets are no JSON document: they are no text, or the text is not read as JSON. -/
inductive DocumentError
  | encoding (e : DecodeError)
  | unread (text : List Char) (e : Json.ReadError)
  deriving DecidableEq, Repr

def DocumentError.message : DocumentError → String
  | .encoding e => e.message
  | .unread text e => e.message text

namespace Json

def unmarkedText (bytes : Bytes) : Except DecodeError (List Char) :=
  match bytes with
  | a :: b :: c :: d :: _ =>
    if a = 0 then
      if b = 0 then Utf32.decodeFrom .big 0 bytes else Utf16.decodeFrom .big 0 bytes
    else if b = 0 then
      if c = 0 ∧ d = 0 then Utf32.decodeFrom .little 0 bytes else Utf16.decodeFrom .little 0 bytes
    else Utf8.decode bytes
  | [0, _] => Utf16.decodeFrom .big 0 bytes
  | [_, 0] => Utf16.decodeFrom .little 0 bytes
  | _ => Utf8.decode bytes

/-- The text of a document. Places are counted from the first octet, but from behind the mark in
UTF-8. -/
def documentText (bytes : Bytes) : Except DecodeError (List Char) :=
  match bytes with
  | 0x00 :: 0x00 :: 0xFE :: 0xFF :: rest => Utf32.decodeFrom .big 4 rest
  | 0xFF :: 0xFE :: 0x00 :: 0x00 :: rest => Utf32.decodeFrom .little 4 rest
  | 0xFE :: 0xFF :: rest => Utf16.decodeFrom .big 2 rest
  | 0xFF :: 0xFE :: rest => Utf16.decodeFrom .little 2 rest
  | 0xEF :: 0xBB :: 0xBF :: rest => Utf8.decode rest
  | bytes => unmarkedText bytes

/-- The value of a document, nested up to `room` deep. -/
def ofDocument (room : Nat) (bytes : Bytes) : Except DocumentError Json :=
  match documentText bytes with
  | .error e => .error (.encoding e)
  | .ok text =>
    match readWithin Text.maxDigits room text with
    | .error e => .error (.unread text e)
    | .ok value => .ok value

end Json

end AccessControl
