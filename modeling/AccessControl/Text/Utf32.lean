import AccessControl.Text.Encoding

/-!
# UTF-32

The text of octets in the encoding that spends four of them on every character. Half a surrogate
pair is kept.
-/
namespace AccessControl.Utf32

def number (order : ByteOrder) (a b c d : UInt8) : Nat :=
  match order with
  | .big => ((a.toNat * 0x100 + b.toNat) * 0x100 + c.toNat) * 0x100 + d.toNat
  | .little => ((d.toNat * 0x100 + c.toNat) * 0x100 + b.toNat) * 0x100 + a.toNat

def decodeFrom (order : ByteOrder) (place : Nat) : Bytes → Except DecodeError (List Char)
  | [] => .ok []
  | a :: b :: c :: d :: rest =>
    let n := number order a b c d
    if 0x110000 ≤ n then .error ⟨.utf32 order, place, 4, a, .range⟩
    else return Text.spelled n ++ (← decodeFrom order (place + 4) rest)
  | a :: rest => .error ⟨.utf32 order, place, rest.length + 1, a, .truncated⟩

end AccessControl.Utf32
