import Warden.Number

/-!
Durations in words: days, then hours, minutes and seconds. A negative duration rounds its days down,
so the rest of it is never negative. The number of days is limited.
-/

namespace Warden.Duration

inductive Problem
  | infinite
  | notANumber
  | tooManyDays (days : Int)
  | unrepresentable

def daysLimit : Int := 999999999

def fits (bits : Nat) (value : Int) : Bool :=
  let limit : Int := Nat.pow 2 (bits - 1)
  value < limit && -limit ≤ value

def Problem.message : Problem → String
  | .infinite => "cannot convert float infinity to integer"
  | .notANumber => "cannot convert float NaN to integer"
  | .tooManyDays days => s!"days={days}; must have magnitude <= {daysLimit}"
  | .unrepresentable => "Python int too large to convert to C int"

def twoDigits (number : Nat) : String :=
  if number < 10 then s!"0{number}" else toString number

def ofSeconds (seconds : Int) : Except Problem String :=
  let days := seconds / 86400
  let rest := (seconds % 86400).toNat
  let clock := s!"{rest / 3600}:" ++ twoDigits (rest / 60 % 60) ++ ":" ++ twoDigits (rest % 60)
  if !fits 32 days then .error .unrepresentable
  else if days < -daysLimit ∨ daysLimit < days then .error (.tooManyDays days)
  else if days = 0 then .ok clock
  else if days = 1 ∨ days = -1 then .ok (s!"{days} day, " ++ clock)
  else .ok (s!"{days} days, " ++ clock)

def ofNumber (seconds : Number) : Except Problem String :=
  match seconds.truncated? with
  | some whole => ofSeconds whole
  | none => .error (if seconds.isNotANumber then .notANumber else .infinite)

end Warden.Duration
