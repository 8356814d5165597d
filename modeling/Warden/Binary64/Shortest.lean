import Warden.Binary64.Basic

/-!
The fewest decimal digits that read back as a given binary64 value, and its text. For one digit,
two digits and so on, the two neighbours of the value among the decimals of that many digits are
tested; the first hit wins, of two hits the nearer one.
-/

namespace Warden.Binary64

structure Decimal where
  digits : Nat
  exponent : Int

/-- The fractions that read back as a value, in units of a quarter of its last place. -/
structure ReadBack where
  least : Nat
  middle : Nat
  greatest : Nat
  closed : Bool

def readBack (significand : Nat) (exponent : Int) : ReadBack :=
  let middle := 4 * significand
  let below := if significand = fractionLimit ∧ exponent ≠ -1074 then 1 else 2
  ⟨middle - below, middle, middle + 2, significand % 2 == 0⟩

def ReadBack.admits (range : ReadBack) (unit candidate : Nat) : Bool :=
  if range.closed then range.least * unit ≤ candidate && candidate ≤ range.greatest * unit
  else range.least * unit < candidate && candidate < range.greatest * unit

def onGrid? (significand : Nat) (exponent grid : Int) : Option Decimal :=
  let range := readBack significand exponent
  let (binaryUnit, binaryCell) := scaled 2 1 1 (exponent - 2)
  let (decimalCell, decimalUnit) := scaled 10 1 1 grid
  let unit := binaryUnit * decimalUnit
  let cell := binaryCell * decimalCell
  let below := range.middle * unit / cell
  let lower := 0 < below && range.admits unit (below * cell)
  let upper := range.admits unit ((below + 1) * cell)
  if lower && upper then
    let nearest := roundedQuotient (range.middle * unit) cell
    some ⟨nearest, grid⟩
  else if lower then some ⟨below, grid⟩
  else if upper then some ⟨below + 1, grid⟩
  else none

def shortest (significand : Nat) (exponent : Int) : Decimal :=
  let size : Int := significand.log2 + 1 + exponent
  let top := size * 30103 / 100000 + 1
  let found := (List.range 24).findSome? fun (drop : Nat) => onGrid? significand exponent (top - drop)
  found.getD ⟨0, 0⟩

/-- The text of a decimal: positional from a ten-thousandth up to below `10 ^ 16`, and otherwise
with one digit before the point and an exponent of at least two digits. -/
def Decimal.text (decimal : Decimal) : String :=
  let digits := Nat.toDigits 10 decimal.digits
  let point : Int := digits.length + decimal.exponent
  let characters :=
    if -4 < point ∧ point ≤ 16 then
      if point ≤ 0 then '0' :: '.' :: List.replicate (-point).toNat '0' ++ digits
      else if 0 ≤ decimal.exponent then
        digits ++ List.replicate decimal.exponent.toNat '0' ++ ['.', '0']
      else digits.take point.toNat ++ '.' :: digits.drop point.toNat
    else
      let order := point - 1
      let exponent := Nat.toDigits 10 order.natAbs
      let fraction := digits.drop 1
      digits.take 1 ++ (if fraction.isEmpty then [] else '.' :: fraction) ++
        ['e', if order < 0 then '-' else '+'] ++
        List.replicate (2 - exponent.length) '0' ++ exponent
  String.ofList characters

def text (value : Float) : String :=
  match meaning value with
  | .notANumber => "nan"
  | .infinite negative => if negative then "-inf" else "inf"
  | .finite negative significand exponent =>
      let sign := if negative then "-" else ""
      if significand = 0 then sign ++ "0.0"
      else sign ++ (shortest significand exponent).text

def textTwoPlaces (value : Float) : String :=
  match meaning value with
  | .notANumber => "nan"
  | .infinite negative => if negative then "-inf" else "inf"
  | .finite negative significand exponent =>
      let (upper, lower) := scaled 2 (significand * 100) 1 exponent
      let hundredths := roundedQuotient upper lower
      let places := Nat.toDigits 10 (hundredths % 100)
      (if negative then "-" else "") ++ toString (hundredths / 100) ++ "." ++
        String.ofList (List.replicate (2 - places.length) '0' ++ places)

end Warden.Binary64
