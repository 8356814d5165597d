import Warden.Text.CharacterSet.Sequence

/-!
The set that writes any text in basic letters and digits: the basic characters come first, then, as
one sequence of numbers, where each of the others goes and how far its code is from the one before.
A number is a run of digits whose weights depend on how large the last number was.
-/

namespace Warden.Text.CharacterSet.Punycode

def digit? (byte : UInt8) : Option Nat :=
  let character := Char.ofNat byte.toNat
  if character.isUpper then some (byte.toNat - 0x41)
  else if character.isLower then some (byte.toNat - 0x61)
  else if character.isDigit then some (byte.toNat - 0x30 + 26)
  else none

def threshold (place bias : Nat) : Nat :=
  min 26 (max 1 (36 * (place + 1) - bias))

def biasFrom (divisions distance : Nat) : Nat :=
  if 455 < distance then biasFrom (divisions + 1) (distance / 35)
  else 36 * divisions + 36 * distance / (distance + 38)
termination_by distance
decreasing_by omega

/-- The bias behind a number, when the text has so many characters. The first number tells less
about the size of the others. -/
def biasAfter (distance length : Nat) (isFirst : Bool) : Nat :=
  let scaled := if isFirst then distance / 700 else distance / 2
  biasFrom 0 (scaled + scaled / length)

structure Draft where
  codes : List Nat
  place : Nat := 0
  code : Nat := 0x80
  bias : Nat := 72
  isFirst : Bool := true

/-- Puts a code into the text: so many steps further, where each step is one place, and behind the
last place comes the first one with the next code. -/
def Draft.insert? (draft : Draft) (distance : Nat) : Option Draft :=
  let places := draft.codes.length + 1
  let code := draft.code + (draft.place + distance) / places
  let place := (draft.place + distance) % places
  if 0x10FFFF < code then none
  else some
    { codes := draft.codes.take place ++ code :: draft.codes.drop place
      place := place + 1
      code
      bias := biasAfter distance places draft.isFirst
      isFirst := false }

structure Unfinished where
  sum : Nat := 0
  place : Nat := 0
  weight : Nat := 1

def completeFrom (draft : Draft) (number : Unfinished) : List Nat → Option (List Nat)
  | [] => if number.place = 0 then some draft.codes else none
  | digit :: rest =>
      let limit := threshold number.place draft.bias
      let sum := number.sum + digit * number.weight
      if digit < limit then
        match draft.insert? sum with
        | some longer => completeFrom longer {} rest
        | none => none
      else completeFrom draft ⟨sum, number.place + 1, number.weight * (36 - limit)⟩ rest

def split (bytes : List UInt8) : List UInt8 × List UInt8 :=
  let digits := (bytes.reverse.takeWhile (· != 0x2D)).reverse
  (bytes.take (bytes.length - digits.length - 1), digits)

def codes? (bytes : List UInt8) : Option (List Nat) := do
  let (basic, rest) := split bytes
  let digits ← rest.mapM digit?
  if basic.all isBasic then completeFrom { codes := basic.map UInt8.toNat } {} digits else none

def read (bytes : List UInt8) : Option (List Symbol) :=
  (codes? bytes).map fun codes => codes.map Symbol.ofCode

end Warden.Text.CharacterSet.Punycode
