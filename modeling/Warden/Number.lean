import Warden.Binary64.Basic

/-!
Numbers of the host and of the settings: whole ones without a bound, and binary64 ones. Arithmetic
on whole numbers stays whole and exact; a binary64 operand makes the result one, so the other operand
has to lie in the finite range of binary64. Comparison is exact whatever the operands are.
-/

namespace Warden

inductive Number
  | whole (value : Int)
  | binary (value : Float)

namespace Number

def outOfRangeMessage : String := "int too large to convert to float"

def toBinary? : Number → Option Float
  | .whole value =>
      let nearest := Binary64.ofFraction (decide (value < 0)) value.natAbs 1
      if Binary64.isInfinite nearest then none else some nearest
  | .binary value => some value

def add? : Number → Number → Option Number
  | .whole left, .whole right => some (.whole (left + right))
  | left, right => return .binary ((← left.toBinary?) + (← right.toBinary?))

def sub? : Number → Number → Option Number
  | .whole left, .whole right => some (.whole (left - right))
  | left, right => return .binary ((← left.toBinary?) - (← right.toBinary?))

def isNotANumber : Number → Bool
  | .whole _ => false
  | .binary value => Binary64.isNotANumber value

def fraction? : Number → Option (Int × Nat)
  | .whole value => some (value, 1)
  | .binary value =>
      match Binary64.meaning value with
      | .finite negative significand exponent =>
          let (numerator, denominator) := Binary64.scaled 2 significand 1 exponent
          some (if negative then -numerator else numerator, denominator)
      | _ => none

/-- Whether the first number is less. A value that is no number is less than none. All finite
numbers compare alike with an infinity, so one beyond the range may stand as zero there. -/
def isLess (left right : Number) : Bool :=
  match left, right with
  | .whole left, .whole right => left < right
  | left, right =>
      match left.fraction?, right.fraction? with
      | some (leftUpper, leftLower), some (rightUpper, rightLower) =>
          leftUpper * rightLower < rightUpper * leftLower
      | _, _ => left.toBinary?.getD 0 < right.toBinary?.getD 0

def truncated? (number : Number) : Option Int :=
  number.fraction?.map fun (numerator, denominator) => numerator.tdiv denominator

def floored? (number : Number) : Option Int :=
  number.fraction?.map fun (numerator, denominator) => numerator / denominator

def whole? (number : Number) : Option Int :=
  number.fraction?.bind fun (numerator, denominator) =>
    if numerator % denominator = 0 then some (numerator / denominator) else none

end Number

end Warden
