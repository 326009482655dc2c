/-!
# Calendar years

The year that a day lies in, by the rule of leap years that goes on in both directions: four hundred
years have the same number of days, and the years inside them start in March, so that a leap day is
the last of its year.
-/
namespace AccessControl.Calendar

/-- The days of four hundred years. -/
def daysOfEra : Int := 146097

/-- The days from the first of March of the year 0 to the start of 1970. -/
def daysBefore1970 : Int := 719468

/-- The year, starting in March, of a day in four hundred years. -/
def yearOfEra (day : Int) : Int :=
  (day - day / 1460 + day / 36524 - day / 146096) / 365

/-- The days before a year, starting in March, in four hundred years. -/
def daysBeforeYear (year : Int) : Int :=
  365 * year + year / 4 - year / 100

/-- The days from March to the end of the year. -/
def daysFromMarch : Int := 306

/-- The year of a day, given as the number of days since the start of 1970. -/
def yearOf (day : Int) : Int :=
  let era := (day + daysBefore1970) / daysOfEra
  let dayOfEra := (day + daysBefore1970) % daysOfEra
  let year := yearOfEra dayOfEra
  400 * era + year + if dayOfEra - daysBeforeYear year < daysFromMarch then 0 else 1

end AccessControl.Calendar
