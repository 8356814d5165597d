import Warden.Text.CharacterSet.Sequence
import Warden.Text.Hexadecimal

/-!
Sets in which a backslash opens an escape and every other byte is the code of its character. In the
plain set an escape is a code of four or eight hexadecimal digits; the full set has those, shorter
codes and letters for some control characters. A backslash before anything else stands for itself.
-/

namespace Warden.Text.CharacterSet

def characterOf (byte : UInt8) : Char :=
  Char.ofNat byte.toNat

def hexadecimal? (count : Nat) (bytes : List UInt8) : Option Nat := do
  let digits ← (bytes.take count).mapM fun byte => hexValue? (characterOf byte)
  if digits.length < count then none
  else some (digits.foldl (fun value digit => value * 16 + digit) 0)

def ofHexadecimal (count : Nat) (behind : List UInt8) : Sequence Unit :=
  match hexadecimal? count behind with
  | some code => if 0x10FFFF < code then .wrong 0 else .code code (count + 1) ()
  | none => .wrong 0

def unescapedPair (byte : UInt8) : Sequence Unit :=
  .symbols [.character '\\', .character (characterOf byte)] 1 ()

namespace PlainEscapes

/-- How many bytes in front of a place are backslashes is told by the parity of the run, so a run
is read in pairs from its start. -/
def next (first : UInt8) (rest : List UInt8) : Sequence Unit :=
  if characterOf first != '\\' then .character (characterOf first) 0 ()
  else match rest with
    | [] => .character '\\' 0 ()
    | letter :: behind =>
        match characterOf letter with
        | 'u' => ofHexadecimal 4 behind
        | 'U' => ofHexadecimal 8 behind
        | _ => unescapedPair letter

def read (bytes : List UInt8) : Option (List Symbol) :=
  readAll next bytes

end PlainEscapes

namespace FullEscapes

def controls : List (Char × Char) :=
  [('a', '\x07'), ('b', '\x08'), ('t', '\x09'), ('n', '\x0a'), ('v', '\x0b'), ('f', '\x0c'),
    ('r', '\x0d')]

def octalDigit? (byte : UInt8) : Option Nat :=
  let code := byte.toNat
  if 0x30 ≤ code && code ≤ 0x37 then some (code - 0x30) else none

def ofOctal (first : Nat) (behind : List UInt8) : Sequence Unit :=
  let digits := ((behind.take 2).takeWhile fun byte => (octalDigit? byte).isSome).filterMap octalDigit?
  .code (digits.foldl (fun value digit => value * 8 + digit) first) (digits.length + 1) ()

def next (first : UInt8) (rest : List UInt8) : Sequence Unit :=
  if characterOf first != '\\' then .character (characterOf first) 0 ()
  else match rest with
    | [] => .wrong 0
    | letter :: behind =>
        match characterOf letter, octalDigit? letter with
        | _, some digit => ofOctal digit behind
        | '\n', _ => .symbols [] 1 ()
        | '\\', _ => .character '\\' 1 ()
        | '\x27', _ => .character '\x27' 1 ()
        | '\x22', _ => .character '\x22' 1 ()
        | 'x', _ => ofHexadecimal 2 behind
        | 'u', _ => ofHexadecimal 4 behind
        | 'U', _ => ofHexadecimal 8 behind
        | 'N', _ => .wrong 0
        | character, _ =>
            match controls.lookup character with
            | some control => .character control 1 ()
            | none => unescapedPair letter

def read (bytes : List UInt8) : Option (List Symbol) :=
  readAll next bytes

end FullEscapes

end Warden.Text.CharacterSet
