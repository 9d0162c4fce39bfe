import Passbook.Time.Calendar

/-!
Points in time with nanosecond precision: seconds from the start of 1970 and nanoseconds. A leap
second is written as a second that ends in 59 with more than a thousand million nanoseconds. Years
reach from -262143 to 262142.
-/

set_option autoImplicit false

namespace Passbook.Time

def nanosPerSecond : Nat := 1000000000

def secondsPerDay : Int := 86400

def firstYear : Int := -262143

def lastYear : Int := 262142

def firstSecond : Int := (Date.toDayNumber ⟨firstYear, 1, 1⟩) * secondsPerDay

def lastSecond : Int := (Date.toDayNumber ⟨lastYear + 1, 1, 1⟩) * secondsPerDay - 1

/-- A point in time. -/
structure Timestamp where
  seconds : Int
  nanos : Nat
  nanos_lt : nanos < 2 * nanosPerSecond
  leap : nanosPerSecond ≤ nanos → seconds % 60 = 59
  seconds_ge : firstSecond ≤ seconds
  seconds_le : seconds ≤ lastSecond
  deriving DecidableEq

namespace Timestamp

/-- The timestamp of given parts, if there is one. -/
def make? (seconds : Int) (nanos : Nat) : Option Timestamp :=
  if nanos_lt : nanos < 2 * nanosPerSecond then
    if leap : nanosPerSecond ≤ nanos → seconds % 60 = 59 then
      if range : firstSecond ≤ seconds ∧ seconds ≤ lastSecond then
        some ⟨seconds, nanos, nanos_lt, leap, range.1, range.2⟩
      else none
    else none
  else none

def epoch : Timestamp :=
  ⟨0, 0, by decide, by decide, by decide, by decide⟩

instance : Inhabited Timestamp := ⟨epoch⟩

/-- The timestamp that lies a number of microseconds after the start of 1970. -/
def ofMicros? (micros : Int) : Option Timestamp :=
  make? (micros / 1000000) ((micros % 1000000).toNat * 1000)

def toMicros (time : Timestamp) : Int := time.seconds * 1000000 + (time.nanos / 1000 : Nat)

def date (time : Timestamp) : Date := Date.ofDayNumber (time.seconds / secondsPerDay)

def secondOfDay (time : Timestamp) : Nat := (time.seconds % secondsPerDay).toNat

end Timestamp

end Passbook.Time
