import Warden.Text.Base64
import Warden.Text.CharacterSet.Utf8
import Warden.Text.CharacterSet.Wide

/-!
The set of Unicode in basic characters only. A plus sign opens a section of base64 digits, which are
16-bit units; a hyphen that closes the section is no character of the text, and a plus sign with a
hyphen right behind it stands for itself.
-/

namespace Warden.Text.CharacterSet.Utf7

def digit? (byte : UInt8) : Option Nat :=
  Base64.value? (Char.ofNat byte.toNat)

structure Remainder where
  value : Nat
  width : Nat

def Remainder.isPadding (remainder : Remainder) : Bool :=
  remainder.width < 6 && remainder.value == 0

def units (before : Remainder) : List Nat → List Nat × Remainder
  | [] => ([], before)
  | digit :: rest =>
      let value := before.value * 0x40 + digit
      let width := before.width + 6
      if 16 ≤ width then
        let scale := Nat.pow 2 (width - 16)
        let (found, left) := units ⟨value % scale, width - 16⟩ rest
        (value / scale :: found, left)
      else units ⟨value, width⟩ rest

def symbols : List Nat → List Symbol × Option Nat
  | [] => ([], none)
  | [unit] => if isUpperHalf unit then ([], some unit) else ([Symbol.ofCode unit], none)
  | unit :: following :: rest =>
      if isUpperHalf unit && isLowerHalf following then
        let (found, open?) := symbols rest
        (Symbol.ofCode (joinedHalves unit following) :: found, open?)
      else
        let (found, open?) := symbols (following :: rest)
        (Symbol.ofCode unit :: found, open?)

/-- What becomes of a half pair at the end of a section: a basic character behind the section keeps
it, another section or a byte beyond the basic alphabet drops it, and a text cannot end with it. -/
def closeHalf? (open? : Option Nat) (behind : List UInt8) : Option (List Symbol) :=
  match open?, behind with
  | none, _ => some []
  | some _, [] => none
  | some unit, following :: _ =>
      some (if isBasic following && following != 0x2B then [Symbol.ofCode unit] else [])

def ofSection (digits : List Nat) (behind : List UInt8) : Sequence Unit :=
  let (found, remainder) := units ⟨0, 0⟩ digits
  let (written, open?) := symbols found
  match closeHalf? open? behind with
  | some closing =>
      if remainder.isPadding then
        .symbols (written ++ closing) (digits.length + (if behind.head? == some 0x2D then 1 else 0)) ()
      else .wrong 0
  | none => .wrong 0

def next (first : UInt8) (rest : List UInt8) : Sequence Unit :=
  if first == 0x2B then
    let digits := (rest.takeWhile fun byte => (digit? byte).isSome).filterMap digit?
    if rest.head? == some 0x2D then .character '+' 1 ()
    else if digits.isEmpty && !rest.isEmpty then .wrong 0
    else ofSection digits (rest.drop digits.length)
  else Basic.next first rest

def read (bytes : List UInt8) : Option (List Symbol) :=
  readAll next bytes

end Warden.Text.CharacterSet.Utf7
