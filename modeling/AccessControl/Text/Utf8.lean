import AccessControl.Text.Encoding

/-!
# UTF-8

The octets of a text and the text of octets. Octets that are no text are reported with their place,
the first and last octet at fault, and the reason. Octets of half a surrogate pair are let through.
-/
namespace AccessControl.Utf8

def encodePoint (n : Nat) : Bytes :=
  if n < 0x80 then [n.toUInt8]
  else if n < 0x800 then [(0xC0 + n / 0x40).toUInt8, (0x80 + n % 0x40).toUInt8]
  else if n < 0x10000 then
    [(0xE0 + n / 0x1000).toUInt8, (0x80 + n / 0x40 % 0x40).toUInt8, (0x80 + n % 0x40).toUInt8]
  else
    [(0xF0 + n / 0x40000).toUInt8, (0x80 + n / 0x1000 % 0x40).toUInt8,
      (0x80 + n / 0x40 % 0x40).toUInt8, (0x80 + n % 0x40).toUInt8]

def encode (cs : List Char) : Bytes :=
  (Text.codePoints cs).flatMap encodePoint

def failure {α : Type} (place count : Nat) (first : UInt8) (fault : DecodeFault) :
    Except DecodeError α :=
  .error ⟨.utf8, place, count, first, fault⟩

def continues (b : UInt8) : Bool := 0x80 ≤ b && b ≤ 0xBF

/-- An octet that may follow the first of a three-octet character. -/
def secondOfThree (a b : UInt8) : Bool :=
  continues b && (a ≠ 0xE0 || 0xA0 ≤ b)

def secondOfFour (a b : UInt8) : Bool :=
  continues b && (a ≠ 0xF0 || 0x90 ≤ b) && (a ≠ 0xF4 || b < 0x90)

def bits (b : UInt8) : Nat := b.toNat % 0x40

def pointOfThree (a b c : UInt8) : Nat :=
  a.toNat % 0x10 * 0x1000 + bits b * 0x40 + bits c

def pointOfFour (a b c d : UInt8) : Nat :=
  a.toNat % 8 * 0x40000 + bits b * 0x1000 + bits c * 0x40 + bits d

/-- The characters of octets, the first of which stands at `place`. -/
def decodeFrom (place : Nat) : Bytes → Except DecodeError (List Char)
  | [] => .ok []
  | a :: rest =>
    if a < 0x80 then
      return Char.ofNat a.toNat :: (← decodeFrom (place + 1) rest)
    else if a < 0xC2 then failure place 1 a .start
    else if a < 0xE0 then
      match rest with
      | [] => failure place 1 a .ended
      | b :: rest =>
        if !continues b then failure place 1 a .continuation
        else return Char.ofNat (a.toNat % 0x20 * 0x40 + bits b) :: (← decodeFrom (place + 2) rest)
    else if a < 0xF0 then
      match rest with
      | [] => failure place 1 a .ended
      | [b] =>
        if !secondOfThree a b || (a = 0xED && 0xA0 ≤ b) then failure place 1 a .continuation
        else failure place 2 a .ended
      | b :: c :: rest =>
        if !secondOfThree a b || (a = 0xED && 0xA0 ≤ b && !continues c) then
          failure place 1 a .continuation
        else if !continues c then failure place 2 a .continuation
        else return Text.spelled (pointOfThree a b c) ++ (← decodeFrom (place + 3) rest)
    else if a < 0xF5 then
      match rest with
      | [] => failure place 1 a .ended
      | [b] =>
        if !secondOfFour a b then failure place 1 a .continuation
        else failure place 2 a .ended
      | [b, c] =>
        if !secondOfFour a b then failure place 1 a .continuation
        else if !continues c then failure place 2 a .continuation
        else failure place 3 a .ended
      | b :: c :: d :: rest =>
        if !secondOfFour a b then failure place 1 a .continuation
        else if !continues c then failure place 2 a .continuation
        else if !continues d then failure place 3 a .continuation
        else return Text.spelled (pointOfFour a b c d) ++ (← decodeFrom (place + 4) rest)
    else failure place 1 a .start

def decode (bytes : Bytes) : Except DecodeError (List Char) :=
  decodeFrom 0 bytes

end AccessControl.Utf8
