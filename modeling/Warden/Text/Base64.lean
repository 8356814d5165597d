/-!
Base64 as mail carries it. Reading is forgiving: characters outside the alphabet are passed over,
missing padding is no fault, and whatever follows a padding that completes a group is left out.
-/

namespace Warden.Text.Base64

def value? (character : Char) : Option Nat :=
  let code := character.toNat
  if character.isUpper then some (code - 0x41)
  else if character.isLower then some (code - 0x61 + 26)
  else if character.isDigit then some (code - 0x30 + 52)
  else if character == '+' then some 62
  else if character == '/' then some 63
  else none

structure Group where
  digits : Nat
  bits : Nat
  padding : Nat

def Group.push (group : Group) (value : Nat) : List UInt8 × Group :=
  match group.digits with
  | 0 => ([], ⟨1, value, 0⟩)
  | 1 => ([UInt8.ofNat (group.bits * 4 + value / 16)], ⟨2, value % 16, 0⟩)
  | 2 => ([UInt8.ofNat (group.bits * 16 + value / 4)], ⟨3, value % 4, 0⟩)
  | _ => ([UInt8.ofNat (group.bits * 64 + value)], ⟨0, 0, 0⟩)

def Group.isClosed (group : Group) : Bool :=
  2 ≤ group.digits && 4 ≤ group.digits + group.padding + 1

/-- Reads on in a group. A single digit at the end is no whole byte, so there is no reading then. -/
def decodeFrom (group : Group) : List Char → Option (List UInt8)
  | [] => if group.digits = 1 then none else some []
  | '=' :: rest =>
      if group.isClosed then some []
      else decodeFrom { group with padding := group.padding + 1 } rest
  | character :: rest =>
      match value? character with
      | none => decodeFrom group rest
      | some value =>
          let (bytes, next) := group.push value
          (decodeFrom next rest).map (bytes ++ ·)

def decode? (characters : List Char) : Option (List UInt8) :=
  decodeFrom ⟨0, 0, 0⟩ characters

end Warden.Text.Base64
