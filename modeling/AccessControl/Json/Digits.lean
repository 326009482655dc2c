import AccessControl.Json.Basic

/-!
# Digits

How many decimal digits the whole numbers of a value have. Numbers of very many digits are neither
read nor written.
-/
namespace AccessControl.Json

mutual

/-- The most digits of a whole number in a value. -/
def digits : Json → Nat
  | .int value => (Nat.toDigits 10 value.natAbs).length
  | .arr items => itemDigits items
  | .obj members => memberDigits members
  | _ => 0

def itemDigits : List Json → Nat
  | [] => 0
  | item :: rest => max item.digits (itemDigits rest)

def memberDigits : List (String × Json) → Nat
  | [] => 0
  | (_, value) :: rest => max value.digits (memberDigits rest)

end

end AccessControl.Json
