import Warden.Text.CharacterSet.Sequence

/-!
The sets of Unicode in units of two and of four bytes. A mark at the start of a text tells the order
of the bytes in a unit; a text without one has the low byte first.
-/

namespace Warden.Text

inductive ByteOrder
  | lowFirst
  | highFirst

def ByteOrder.value (order : ByteOrder) (bytes : List UInt8) : Nat :=
  let ordered := match order with
    | .highFirst => bytes
    | .lowFirst => bytes.reverse
  ordered.foldl (fun value byte => value * 0x100 + byte.toNat) 0

def isUpperHalf (unit : Nat) : Bool :=
  0xD800 ≤ unit && unit ≤ 0xDBFF

def isLowerHalf (unit : Nat) : Bool :=
  0xDC00 ≤ unit && unit ≤ 0xDFFF

def joinedHalves (upper lower : Nat) : Nat :=
  0x10000 + (upper - 0xD800) * 0x400 + (lower - 0xDC00)

namespace CharacterSet

namespace Utf16

def next (order : ByteOrder) (first : UInt8) : List UInt8 → Sequence Unit
  | [] => .wrong 0
  | second :: rest =>
      let unit := order.value [first, second]
      if isLowerHalf unit then .wrong 1
      else if !isUpperHalf unit then .code unit 1 ()
      else match rest with
        | third :: fourth :: _ =>
            let lower := order.value [third, fourth]
            if isLowerHalf lower then .code (joinedHalves unit lower) 3 () else .wrong 1
        | _ => .wrong (1 + rest.length)

def read (order : ByteOrder) (bytes : List UInt8) : Option (List Symbol) :=
  readAll (next order) bytes

def readMarked : List UInt8 → Option (List Symbol)
  | 0xFF :: 0xFE :: rest => read .lowFirst rest
  | 0xFE :: 0xFF :: rest => read .highFirst rest
  | bytes => read .lowFirst bytes

end Utf16

namespace Utf32

def next (order : ByteOrder) (first : UInt8) : List UInt8 → Sequence Unit
  | second :: third :: fourth :: _ =>
      let code := order.value [first, second, third, fourth]
      if isUpperHalf code || isLowerHalf code || 0x10FFFF < code then .wrong 3
      else .code code 3 ()
  | rest => .wrong rest.length

def read (order : ByteOrder) (bytes : List UInt8) : Option (List Symbol) :=
  readAll (next order) bytes

def readMarked : List UInt8 → Option (List Symbol)
  | 0xFF :: 0xFE :: 0x00 :: 0x00 :: rest => read .lowFirst rest
  | 0x00 :: 0x00 :: 0xFE :: 0xFF :: rest => read .highFirst rest
  | bytes => read .lowFirst bytes

end Utf32

end CharacterSet

end Warden.Text
