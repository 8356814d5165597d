import Warden.Binary64.Basic
import Warden.Text.Blank
import Warden.Text.Digit
import Warden.Text.Quoted

/-!
Numerals as people write them: decimal digits of any script, single underscores between digits,
blanks around the whole. Whole numerals have a greatest length; decimal ones may have a point, an
exponent, or be a word for an infinity or for no number.
-/

namespace Warden.Numeral

open Text

inductive Problem
  | notWhole (text : String)
  | notDecimal (text : String)
  | tooLong (digits : Nat)

def lengthLimit : Nat := 4300

def shownLimit : Nat := 200

def Problem.message : Problem → String
  | .notWhole text =>
      "invalid literal for int() with base 10: " ++
        String.ofList ((quoted text).toList.take shownLimit)
  | .notDecimal text => "could not convert string to float: " ++ quoted text
  | .tooLong digits =>
      s!"Exceeds the limit ({lengthLimit} digits) for integer string conversion: " ++
        s!"value has {digits} digits; use sys.set_int_max_str_digits() to increase the limit"

def basicForm (character : Char) : Char :=
  match digitValue? character with
  | some value => Char.ofNat (0x30 + value)
  | none => character

def underscoresFit : List Char → Bool
  | [] => true
  | [last] => last != '_'
  | left :: right :: rest =>
      (if right == '_' then left.isDigit
        else if left == '_' then right.isDigit else true) && underscoresFit (right :: rest)

def digitsValue (digits : List Char) : Nat :=
  digits.foldl (fun value digit => value * 10 + (digit.toNat - 0x30)) 0

def splitSign : List Char → Bool × List Char
  | '-' :: rest => (true, rest)
  | '+' :: rest => (false, rest)
  | rest => (false, rest)

def body (text : String) : List Char :=
  (trim isNumeralBlank text.toList).map basicForm

def readWhole (text : String) : Except Problem Int :=
  let (negative, unsigned) := splitSign (body text)
  let isPart := fun (character : Char) => character.isDigit || character == '_'
  let run := unsigned.takeWhile isPart
  let digits := run.filter Char.isDigit
  if run.head? == some '_' || digits.isEmpty || !underscoresFit run then .error (.notWhole text)
  else if lengthLimit < digits.length then .error (.tooLong digits.length)
  else if run.length < unsigned.length then .error (.notWhole text)
  else
    let value : Int := digitsValue digits
    .ok (if negative then -value else value)

def exponent? : List Char → Option Int
  | [] => some 0
  | mark :: rest =>
      if mark == 'e' || mark == 'E' then
        let (negative, digits) := splitSign rest
        if digits.isEmpty || !digits.all Char.isDigit then none
        else
          let value : Int := digitsValue digits
          some (if negative then -value else value)
      else none

def decimal? (unsigned : List Char) (negative : Bool) : Option Float := do
  let integral := unsigned.takeWhile Char.isDigit
  let afterIntegral := unsigned.dropWhile Char.isDigit
  let (fraction, rest) := match afterIntegral with
    | '.' :: tail => (tail.takeWhile Char.isDigit, tail.dropWhile Char.isDigit)
    | tail => ([], tail)
  let exponent ← exponent? rest
  if integral.isEmpty && fraction.isEmpty then none
  else
    let digits := digitsValue (integral ++ fraction)
    some (Binary64.ofDecimal negative digits (exponent - fraction.length))

def readDecimal (text : String) : Except Problem Float :=
  let characters := body text
  let (negative, unsigned) := splitSign (characters.filter (· != '_'))
  let word := String.ofList (unsigned.map Char.toLower)
  let value? :=
    if characters.head? == some '_' || !underscoresFit characters then none
    else if word == "inf" || word == "infinity" then
      some (Binary64.ofBits negative Binary64.infinityBits)
    else if word == "nan" then
      some (Binary64.ofBits negative (Binary64.infinityBits + Binary64.fractionLimit / 2))
    else decimal? unsigned negative
  match value? with
  | some value => .ok value
  | none => .error (.notDecimal text)

end Warden.Numeral
