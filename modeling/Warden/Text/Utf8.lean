/-!
UTF-8 over lists of bytes. Reading gives a list of units: a character for each well-formed sequence
and a gap for each maximal invalid piece, that is, for the longest beginning of a well-formed
sequence, or else for one byte. The three ways to read differ in what they do with gaps only.
-/

namespace Warden.Text.Utf8

/-- A character whose first bytes have been read: the code bits so far, how many bytes are still to
come and the range in which the next one has to lie. -/
structure Pending where
  code : Nat
  missing : Nat
  low : UInt8
  high : UInt8
  deriving DecidableEq

structure Step where
  units : List (Option Char)
  pending : Option Pending
  deriving DecidableEq

def begin? (first : UInt8) : Option Pending :=
  if first < 0xC2 then none
  else if first < 0xE0 then some ⟨first.toNat - 0xC0, 1, 0x80, 0xBF⟩
  else if first == 0xE0 then some ⟨0, 2, 0xA0, 0xBF⟩
  else if first == 0xED then some ⟨0xD, 2, 0x80, 0x9F⟩
  else if first < 0xF0 then some ⟨first.toNat - 0xE0, 2, 0x80, 0xBF⟩
  else if first == 0xF0 then some ⟨0, 3, 0x90, 0xBF⟩
  else if first < 0xF4 then some ⟨first.toNat - 0xF0, 3, 0x80, 0xBF⟩
  else if first == 0xF4 then some ⟨4, 3, 0x80, 0x8F⟩
  else none

def start (first : UInt8) : Step :=
  if first < 0x80 then ⟨[some (Char.ofNat first.toNat)], none⟩
  else match begin? first with
    | some pending => ⟨[], some pending⟩
    | none => ⟨[none], none⟩

def advance (state : Option Pending) (byte : UInt8) : Step :=
  match state with
  | none => start byte
  | some pending =>
      if pending.low ≤ byte && byte ≤ pending.high then
        let code := pending.code * 64 + (byte.toNat - 0x80)
        if pending.missing ≤ 1 then ⟨[some (Char.ofNat code)], none⟩
        else ⟨[], some ⟨code, pending.missing - 1, 0x80, 0xBF⟩⟩
      else
        let fresh := start byte
        ⟨none :: fresh.units, fresh.pending⟩

def unitsFrom (state : Option Pending) : List UInt8 → List (Option Char)
  | [] => if state.isSome then [none] else []
  | byte :: rest =>
      let step := advance state byte
      step.units ++ unitsFrom step.pending rest

def units (bytes : List UInt8) : List (Option Char) :=
  unitsFrom none bytes

def encode (text : String) : List UInt8 :=
  text.toList.flatMap String.utf8EncodeChar

def decode? (bytes : List UInt8) : Option String :=
  ((units bytes).mapM id).map String.ofList

def decodeReplacing (bytes : List UInt8) : String :=
  String.ofList ((units bytes).map fun unit => unit.getD '\uFFFD')

def decodeSkipping (bytes : List UInt8) : String :=
  String.ofList ((units bytes).filterMap id)

end Warden.Text.Utf8
