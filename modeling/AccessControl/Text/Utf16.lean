import AccessControl.Text.Encoding

/-!
# UTF-16

The characters that units of sixteen bits stand for, and the text of octets in that encoding. Two
units that make a surrogate pair are one character, and half a pair that stands alone is kept.
-/
namespace AccessControl.Utf16

def isHighSurrogate (unit : Nat) : Bool := 0xD800 ≤ unit && unit ≤ 0xDBFF

def isLowSurrogate (unit : Nat) : Bool := 0xDC00 ≤ unit && unit ≤ 0xDFFF

def pairPoint (high low : Nat) : Nat :=
  0x10000 + (high - 0xD800) * 0x400 + (low - 0xDC00)

def ofUnits : List Nat → List Char
  | [] => []
  | [unit] => Text.spelled unit
  | high :: low :: rest =>
    if isHighSurrogate high && isLowSurrogate low then
      Text.spelled (pairPoint high low) ++ ofUnits rest
    else Text.spelled high ++ ofUnits (low :: rest)

def unit (order : ByteOrder) (a b : UInt8) : Nat :=
  match order with
  | .big => a.toNat * 0x100 + b.toNat
  | .little => b.toNat * 0x100 + a.toNat

/-- The units of octets, the first of which stands at `place`. -/
def unitsFrom (order : ByteOrder) (place : Nat) : Bytes → Except DecodeError (List Nat)
  | [] => .ok []
  | [a] => .error ⟨.utf16 order, place, 1, a, .truncated⟩
  | a :: b :: rest => return unit order a b :: (← unitsFrom order (place + 2) rest)

def decodeFrom (order : ByteOrder) (place : Nat) (bytes : Bytes) :
    Except DecodeError (List Char) :=
  (unitsFrom order place bytes).map ofUnits

end AccessControl.Utf16
