/-!
# Binary floating-point numbers

The values of the 64-bit binary format, kept exactly: a finite number is its sign, significand and
power of two. `nearest` rounds a positive quotient to the closest finite value, a half to the even
neighbour, and says infinite beyond the largest.
-/
namespace AccessControl

/-- A 64-bit binary floating-point value; `finite negative significand exponent` stands for
`± significand · 2 ^ exponent`. -/
inductive Binary64
  | nan
  | infinite (negative : Bool)
  | finite (negative : Bool) (significand : Nat) (exponent : Int)
  deriving DecidableEq, Repr

namespace Binary64

/-- Zero of either sign. -/
def isZero : Binary64 → Bool
  | .finite _ significand _ => significand = 0
  | _ => false

/-- `numerator / denominator`, rounded to a whole number with halves to the even neighbour. -/
def roundHalfEven (numerator denominator : Nat) : Nat :=
  let whole := numerator / denominator
  let twice := 2 * (numerator % denominator)
  if twice < denominator then whole
  else if denominator < twice then whole + 1
  else whole + whole % 2

/-- The quotient `numerator / (denominator · 2 ^ exponent)` as a fraction of whole numbers. -/
def scaled (numerator denominator : Nat) (exponent : Int) : Nat × Nat :=
  if 0 ≤ exponent then (numerator, denominator * Nat.pow 2 exponent.toNat)
  else (numerator * Nat.pow 2 (-exponent).toNat, denominator)

/-- The bound of significands, which have 53 binary digits. -/
def precisionBound : Nat := 9007199254740992

/-- The exponent that leaves 53 binary digits before the point, or the least one of the format. -/
def exponentFor (numerator denominator : Nat) : Int :=
  let candidate : Int := Nat.log2 numerator - Nat.log2 denominator - 53
  let (n, d) := scaled numerator denominator candidate
  max (-1074) (if n / d < precisionBound then candidate else candidate + 1)

/-- The value closest to `± numerator / denominator`. -/
def nearest (negative : Bool) (numerator denominator : Nat) : Binary64 :=
  if numerator = 0 then .finite negative 0 (-1074)
  else
    let exponent := exponentFor numerator denominator
    let (n, d) := scaled numerator denominator exponent
    let significand := roundHalfEven n d
    let (significand, exponent) :=
      if significand = precisionBound then (precisionBound / 2, exponent + 1)
      else (significand, exponent)
    if 971 < exponent then .infinite negative else .finite negative significand exponent

/-- The size of a finite value as a fraction of whole numbers. -/
def fraction (significand : Nat) (exponent : Int) : Nat × Nat :=
  if 0 ≤ exponent then (significand * Nat.pow 2 exponent.toNat, 1)
  else (significand, Nat.pow 2 (-exponent).toNat)

/-- The whole part of a finite value, toward zero. -/
def truncate? : Binary64 → Option Int
  | .finite negative significand exponent =>
    let (n, d) := fraction significand exponent
    some (if negative then -((n / d : Nat) : Int) else (n / d : Nat))
  | _ => none

def integer? : Binary64 → Option Int
  | .finite negative significand exponent =>
    let (n, d) := fraction significand exponent
    if n % d = 0 then some (if negative then -((n / d : Nat) : Int) else (n / d : Nat)) else none
  | _ => none

end Binary64

end AccessControl
