import AccessControl.Text.Utf8

/-!
# Base64url

Octets in the alphabet of letters, digits, `-` and `_`. Writing leaves the filling out; reading
accepts it, and refuses foreign characters, impossible lengths and spare bits that are not zero.
-/
namespace AccessControl.Base64Url

def letter (n : Nat) : Char :=
  if n < 26 then Char.ofNat ('A'.toNat + n)
  else if n < 52 then Char.ofNat ('a'.toNat + (n - 26))
  else if n < 62 then Char.ofNat ('0'.toNat + (n - 52))
  else if n = 62 then '-'
  else '_'

def sextet? (c : Char) : Option Nat :=
  if 'A' ≤ c ∧ c ≤ 'Z' then some (c.toNat - 'A'.toNat)
  else if 'a' ≤ c ∧ c ≤ 'z' then some (c.toNat - 'a'.toNat + 26)
  else if '0' ≤ c ∧ c ≤ '9' then some (c.toNat - '0'.toNat + 52)
  else if c = '-' then some 62
  else if c = '_' then some 63
  else none

def encode : Bytes → List Char
  | [] => []
  | [a] => [letter (a.toNat / 4), letter (a.toNat % 4 * 16)]
  | [a, b] =>
    [letter (a.toNat / 4), letter (a.toNat % 4 * 16 + b.toNat / 16), letter (b.toNat % 16 * 4)]
  | a :: b :: c :: rest =>
    letter (a.toNat / 4) :: letter (a.toNat % 4 * 16 + b.toNat / 16) ::
      letter (b.toNat % 16 * 4 + c.toNat / 64) :: letter (c.toNat % 64) :: encode rest

/-- The octet of two letters whose spare bits are zero. -/
def lastOne (x y : Char) : Option Bytes := do
  let p ← sextet? x
  let q ← sextet? y
  if q % 16 = 0 then some [(p * 4 + q / 16).toUInt8] else none

/-- The octets of three letters whose spare bits are zero. -/
def lastTwo (x y z : Char) : Option Bytes := do
  let p ← sextet? x
  let q ← sextet? y
  let r ← sextet? z
  if r % 4 = 0 then some [(p * 4 + q / 16).toUInt8, (q % 16 * 16 + r / 4).toUInt8] else none

def decode : List Char → Option Bytes
  | [] => some []
  | [x, y] => lastOne x y
  | [x, y, '=', '='] => lastOne x y
  | [x, y, z] => lastTwo x y z
  | [x, y, z, '='] => lastTwo x y z
  | x :: y :: z :: w :: rest => do
    let p ← sextet? x
    let q ← sextet? y
    let r ← sextet? z
    let s ← sextet? w
    let tail ← decode rest
    return (p * 4 + q / 16).toUInt8 :: (q % 16 * 16 + r / 4).toUInt8 :: (r % 4 * 64 + s).toUInt8 ::
      tail
  | _ => none

end AccessControl.Base64Url
