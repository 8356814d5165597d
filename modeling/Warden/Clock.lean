import Warden.Duration

/-!
The clock in words: date and time of day in universal time, from seconds since the start of 1970. A
moment has to fit 64 bits, and its year 32 bits, both counted from 1900 and as it is written.
-/

namespace Warden.Clock

inductive Problem
  | notANumber
  | outOfRange
  | countTooLarge
  | yearTooLarge

def Problem.message : Problem → String
  | .notANumber => "Invalid value NaN (not a number)"
  | .outOfRange => "timestamp out of range for platform time_t"
  | .countTooLarge => "[Errno 75] Value too large for defined data type"
  | .yearTooLarge => "signed integer is greater than maximum"

structure Date where
  year : Int
  month : Nat
  day : Nat

/-- The date that many days after the first of March of the year zero. Years that begin in March
put the leap day last, so that the months before it have fixed lengths. -/
def Date.ofMarchDays (days : Int) : Date :=
  let era := days / 146097
  let dayOfEra := (days % 146097).toNat
  let yearOfEra :=
    (dayOfEra - dayOfEra / 1460 + dayOfEra / 36524 - dayOfEra / 146096) / 365
  let dayOfYear := dayOfEra - (365 * yearOfEra + yearOfEra / 4 - yearOfEra / 100)
  let marchMonth := (5 * dayOfYear + 2) / 153
  let day := dayOfYear - (153 * marchMonth + 2) / 5 + 1
  let month := if marchMonth < 10 then marchMonth + 3 else marchMonth - 9
  let year := era * 400 + yearOfEra
  ⟨if month ≤ 2 then year + 1 else year, month, day⟩

def epochDays : Int := 719468

def ofSeconds (seconds : Int) : Except Problem String :=
  let date := Date.ofMarchDays (seconds / 86400 + epochDays)
  let rest := (seconds % 86400).toNat
  let two := Duration.twoDigits
  if !Duration.fits 64 seconds then .error .outOfRange
  else if !Duration.fits 32 (date.year - 1900) then .error .countTooLarge
  else if !Duration.fits 32 date.year then .error .yearTooLarge
  else .ok (s!"{date.year}-" ++ two date.month ++ "-" ++ two date.day ++ " " ++
    two (rest / 3600) ++ ":" ++ two (rest / 60 % 60) ++ ":" ++ two (rest % 60) ++ " +0000")

def ofNumber (moment : Number) : Except Problem String :=
  match moment.floored? with
  | some seconds => ofSeconds seconds
  | none => .error (if moment.isNotANumber then .notANumber else .outOfRange)

end Warden.Clock
