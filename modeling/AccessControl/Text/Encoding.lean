import AccessControl.Text.Quoted

/-!
# Encodings

The octets in which texts arrive, and how octets that are no text are reported: with the encoding
they were taken for, the place of the first and the last octet at fault, and the reason.
-/
namespace AccessControl

/-- Octets. -/
abbrev Bytes := List UInt8

/-- The order of the octets of one unit: the heaviest first, or the lightest. -/
inductive ByteOrder
  | big
  | little
  deriving DecidableEq, Repr

def ByteOrder.text : ByteOrder → String
  | .big => "be"
  | .little => "le"

inductive Encoding
  | utf8
  | utf16 (order : ByteOrder)
  | utf32 (order : ByteOrder)
  deriving DecidableEq, Repr

def Encoding.text : Encoding → String
  | .utf8 => "utf-8"
  | .utf16 order => "utf-16-" ++ order.text
  | .utf32 order => "utf-32-" ++ order.text

inductive DecodeFault
  | start
  | continuation
  | ended
  | truncated
  | range
  deriving DecidableEq, Repr

def DecodeFault.text : DecodeFault → String
  | .start => "invalid start byte"
  | .continuation => "invalid continuation byte"
  | .ended => "unexpected end of data"
  | .truncated => "truncated data"
  | .range => "code point not in range(0x110000)"

/-- The octets at fault in an encoding: the place of the first, their number, the first itself and
the fault. -/
structure DecodeError where
  encoding : Encoding
  place : Nat
  count : Nat
  first : UInt8
  fault : DecodeFault
  deriving DecidableEq, Repr

def DecodeError.message (e : DecodeError) : String :=
  let what :=
    if e.count = 1 then
      "byte 0x" ++ String.ofList (Text.hex 2 e.first.toNat) ++ " in position " ++ e.place.repr
    else "bytes in position " ++ e.place.repr ++ "-" ++ (e.place + e.count - 1).repr
  "'" ++ e.encoding.text ++ "' codec can't decode " ++ what ++ ": " ++ e.fault.text

end AccessControl
