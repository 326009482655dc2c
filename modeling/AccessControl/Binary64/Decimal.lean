import AccessControl.Binary64.Basic

/-!
# Decimal text of floating-point numbers

Reading takes the value closest to a decimal. Writing takes the fewest digits that read back as
the same value and, among those, the digits closest to it.
-/
namespace AccessControl.Binary64

/-- The value closest to `± digits · 10 ^ exponent`. Powers far outside the format are answered
without being computed. -/
def ofDecimal (negative : Bool) (digits : Nat) (exponent : Int) : Binary64 :=
  let size : Int := (Nat.repr digits).length
  if digits = 0 then .finite negative 0 (-1074)
  else if 400 < size + exponent then .infinite negative
  else if size + exponent < -400 then .finite negative 0 (-1074)
  else if 0 ≤ exponent then nearest negative (digits * Nat.pow 10 exponent.toNat) 1
  else nearest negative digits (Nat.pow 10 (-exponent).toNat)

/-- The power of ten of the leading decimal digit of `numerator / denominator`. -/
def leadingPower (numerator denominator : Nat) : Int :=
  if denominator ≤ numerator then (Nat.repr (numerator / denominator)).length - 1
  else -((Nat.repr ((denominator - 1) / numerator)).length : Int)

/-- The fraction in units of `10 ^ power`. -/
def inUnits (numerator denominator : Nat) (power : Int) : Nat × Nat :=
  if 0 ≤ power then (numerator, denominator * Nat.pow 10 power.toNat)
  else (numerator * Nat.pow 10 (-power).toNat, denominator)

/-- The digits next to the value on the grid of `10 ^ power` that read back as the value; of two
the closer, of two equally close the even. -/
def onGrid? (significand : Nat) (exponent : Int) (power : Int) : Option Nat :=
  let (n, d) := fraction significand exponent
  let (n, d) := inUnits n d power
  let below := n / d
  let readsBack := fun digits => ofDecimal false digits power = .finite false significand exponent
  let lower := below ≠ 0 ∧ readsBack below
  let upper := readsBack (below + 1)
  let closest := roundHalfEven n d
  if lower ∧ upper then some closest
  else if lower then some below
  else if upper then some (below + 1)
  else none

/-- The first grid, from one digit on, that holds a decimal of the value. A carry to the next power
of ten leaves a last zero, which is dropped. -/
def shortestFrom (significand : Nat) (exponent power : Int) : (tries : Nat) → Nat × Int
  | 0 => (0, power)
  | tries + 1 =>
    match onGrid? significand exponent power with
    | some digits => if digits % 10 = 0 then (digits / 10, power + 1) else (digits, power)
    | none => shortestFrom significand exponent (power - 1) tries

/-- The fewest decimal digits and the power of ten of a positive finite value. Seventeen digits
always read back. -/
def shortest (significand : Nat) (exponent : Int) : Nat × Int :=
  let (n, d) := fraction significand exponent
  shortestFrom significand exponent (leadingPower n d) 17

/-- Digits with the point placed `point` digits from the left: positional for leading powers of ten
from -4 to 15, and with a signed exponent of at least two digits beyond. -/
def place (digits : List Char) (point : Int) : List Char :=
  if -4 < point ∧ point ≤ 16 then
    if point ≤ 0 then '0' :: '.' :: List.replicate (-point).toNat '0' ++ digits
    else
      let whole := digits.take point.toNat
      let rest := digits.drop point.toNat
      whole ++ List.replicate (point.toNat - whole.length) '0' ++
        '.' :: (if rest.isEmpty then ['0'] else rest)
  else
    let power := point - 1
    let size := (Nat.repr power.natAbs).toList
    let mantissa := match digits with
      | first :: second :: rest => first :: '.' :: second :: rest
      | short => short
    mantissa ++ 'e' :: (if power < 0 then '-' else '+') ::
      (if size.length < 2 then '0' :: size else size)

/-- The spellings of the values that have no digits. -/
structure Spelling where
  nan : String
  infinite : String

/-- The shortest decimal text of a value. -/
def text (spelling : Spelling) : Binary64 → List Char
  | .nan => spelling.nan.toList
  | .infinite negative => (if negative then ['-'] else []) ++ spelling.infinite.toList
  | .finite negative significand exponent =>
    let sign := if negative then ['-'] else []
    if significand = 0 then sign ++ ['0', '.', '0']
    else
      let (digits, power) := shortest significand exponent
      let shown := (Nat.repr digits).toList
      sign ++ place shown (shown.length + power)

end AccessControl.Binary64
