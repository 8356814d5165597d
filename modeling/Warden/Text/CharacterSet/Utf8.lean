import Warden.Text.CharacterSet.Sequence

/-!
The set of Unicode in sequences of one to four bytes, and the basic alphabet, which is its part of
one byte. Every byte that is in no well-formed sequence stays raw.
-/

namespace Warden.Text.CharacterSet

namespace Basic

def next (first : UInt8) (_ : List UInt8) : Sequence Unit :=
  if isBasic first then .code first.toNat 0 () else .wrong 0

def read (bytes : List UInt8) : Option (List Symbol) :=
  readAll next bytes

end Basic

namespace Utf8

def complete? (pending : Text.Utf8.Pending) : List UInt8 → Option Nat
  | [] => none
  | byte :: rest =>
      if pending.low ≤ byte && byte ≤ pending.high then
        let code := pending.code * 0x40 + (byte.toNat - 0x80)
        if pending.missing ≤ 1 then some code
        else complete? ⟨code, pending.missing - 1, 0x80, 0xBF⟩ rest
      else none

def next (first : UInt8) (rest : List UInt8) : Sequence Unit :=
  if isBasic first then .code first.toNat 0 ()
  else match Text.Utf8.begin? first with
    | none => .wrong 0
    | some pending =>
        match complete? pending rest with
        | some code => .code code pending.missing ()
        | none => .wrong 0

def read (bytes : List UInt8) : Option (List Symbol) :=
  readAll next bytes

def readMarked : List UInt8 → Option (List Symbol)
  | 0xEF :: 0xBB :: 0xBF :: rest => read rest
  | bytes => read bytes

end Utf8

end Warden.Text.CharacterSet
