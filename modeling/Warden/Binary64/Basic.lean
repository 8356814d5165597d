/-!
Binary64 values as exact fractions: what a value stands for, and which value is nearest to a
fraction. Halfway cases go to the even neighbour.
-/

namespace Warden.Binary64

inductive Meaning
  | finite (negative : Bool) (significand : Nat) (exponent : Int)
  | infinite (negative : Bool)
  | notANumber

def fractionLimit : Nat := Nat.pow 2 52

def fieldLimit : Nat := Nat.pow 2 11

def signBit : Nat := fractionLimit * fieldLimit

def meaning (value : Float) : Meaning :=
  let bits := value.toBits.toNat
  let negative := decide (signBit ≤ bits)
  let field : Nat := bits / fractionLimit % fieldLimit
  let fraction := bits % fractionLimit
  if field = 0 then .finite negative fraction (-1074)
  else if field = 2047 then if fraction = 0 then .infinite negative else .notANumber
  else .finite negative (fractionLimit + fraction) ((field : Int) - 1075)

def isNotANumber (value : Float) : Bool :=
  match meaning value with
  | .notANumber => true
  | _ => false

def isInfinite (value : Float) : Bool :=
  match meaning value with
  | .infinite _ => true
  | _ => false

def roundedQuotient (numerator denominator : Nat) : Nat :=
  let quotient := numerator / denominator
  let twice := 2 * (numerator % denominator)
  if denominator < twice ∨ (twice = denominator ∧ quotient % 2 = 1) then quotient + 1 else quotient

def scaled (base numerator denominator : Nat) (exponent : Int) : Nat × Nat :=
  (numerator * Nat.pow base exponent.toNat, denominator * Nat.pow base (-exponent).toNat)

def binaryOrder (numerator denominator : Nat) : Int :=
  let estimate : Int := (numerator.log2 : Int) - denominator.log2
  let (upper, lower) := scaled 2 numerator denominator (-estimate)
  if lower ≤ upper then estimate else estimate - 1

def ofBits (negative : Bool) (bits : Nat) : Float :=
  Float.ofBits (UInt64.ofNat (if negative then signBit + bits else bits))

def infinityBits : Nat := 2047 * fractionLimit

def ofFraction (negative : Bool) (numerator denominator : Nat) : Float :=
  if numerator = 0 then ofBits negative 0
  else
    let exponent := max (binaryOrder numerator denominator - 52) (-1074)
    let (upper, lower) := scaled 2 numerator denominator (-exponent)
    let significand := roundedQuotient upper lower
    ofBits negative (min infinityBits ((exponent + 1074).toNat * fractionLimit + significand))

/-- The value nearest to `digits * 10 ^ exponent`. Exponents far outside the finite range are cut
off before any power is taken. -/
def ofDecimal (negative : Bool) (digits : Nat) (exponent : Int) : Float :=
  let order := (Nat.toDigits 10 digits).length + exponent
  if digits = 0 || order < -330 then ofBits negative 0
  else if 330 < order then ofBits negative infinityBits
  else
    let (upper, lower) := scaled 10 digits 1 exponent
    ofFraction negative upper lower

end Warden.Binary64
