import AccessControl.Binary64.Basic
import AccessControl.Clock.Calendar
import AccessControl.Json.Basic

/-!
# The clock

What looking at the clock gives: a point in time in the years 1 to 9999, to the microsecond. A clock
may be out of order; then looking at it is an error.
-/
namespace AccessControl

/-- A point in time, as microseconds since the start of 1970. -/
structure Instant where
  microseconds : Int
  deriving DecidableEq, Repr

def Instant.seconds (i : Instant) : Int := i.microseconds / 1000000

def Instant.isBefore (i : Instant) (seconds : Int) : Bool :=
  i.microseconds < seconds * 1000000

inductive ClockError
  | otherYear (year : Int)
  | undefined
  | beyondYears
  | beyondSeconds
  | notNumber
  deriving DecidableEq, Repr

def ClockError.message : ClockError → String
  | .otherYear year => "year " ++ year.repr ++ " is out of range"
  | .undefined => "Invalid value NaN (not a number)"
  | .beyondYears => "the year is out of every range"
  | .beyondSeconds => "the number of seconds is out of range"
  | .notNumber => "the seconds are no number"

/-- A clock: the point in time that it shows, or why it shows none. -/
abbrev Clock := Except ClockError Instant

namespace Clock

/-- The numbers that a word holds, given their number of bits less one. -/
def fits (bits : Nat) (n : Int) : Bool :=
  -(Nat.pow 2 bits : Int) ≤ n && n < (Nat.pow 2 bits : Int)

/-- The clock that shows a number of microseconds since the start of 1970. Seconds are kept in words
of 64 bits and years, counted from 1900, in words of 32. -/
def ofMicroseconds (microseconds : Int) : Clock :=
  let i : Instant := ⟨microseconds⟩
  let year := Calendar.yearOf (i.seconds / 86400)
  if !fits 63 i.seconds then .error .beyondSeconds
  else if !fits 31 (year - 1900) then .error .beyondYears
  else if year < 1 ∨ 9999 < year then .error (.otherYear (year.bmod 4294967296))
  else .ok i

/-- The microseconds of a fraction of a second, rounded as a floating-point number first. -/
def roundedMicroseconds (numerator denominator : Nat) : Nat :=
  match Binary64.nearest false (numerator * 1000000) denominator with
  | .finite _ significand exponent =>
    let (n, d) := Binary64.fraction significand exponent
    Binary64.roundHalfEven n d
  | _ => 0

def ofFloat : Binary64 → Clock
  | .nan => .error .undefined
  | .infinite _ => .error .beyondSeconds
  | .finite negative significand exponent =>
    let (n, d) := Binary64.fraction significand exponent
    let size : Int := (n / d) * 1000000 + roundedMicroseconds (n % d) d
    ofMicroseconds (if negative then -size else size)

def ofJson : Json → Clock
  | .int seconds => ofMicroseconds (seconds * 1000000)
  | .bool value => ofMicroseconds (if value then 1000000 else 0)
  | .float seconds => ofFloat seconds
  | _ => .error .notNumber

end Clock

end AccessControl
