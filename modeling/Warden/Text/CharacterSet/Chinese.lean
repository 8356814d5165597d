import Warden.Text.CharacterSet.Big5
import Warden.Text.CharacterSet.Gb2312
import Warden.Text.CharacterSet.Gbk
import Warden.Text.CharacterSet.Hkscs
import Warden.Text.CharacterSet.Pairs

/-!
The sets of Chinese. Those of simplified characters grow out of the national set, those of
traditional ones out of one table; the largest set of each kind has what the others have, and in one
of them four bytes can be any other character of Unicode.
-/

namespace Warden.Text.CharacterSet

/-! Simplified characters -/

namespace Gb2312

def meaning (first second : Nat) : Option (List Char) :=
  alone (loweredCell? gb2312 first second)

def read (bytes : List UInt8) : Option (List Symbol) :=
  readPairs meaning bytes

end Gb2312

namespace Gbk

def otherIdeographs : Array Char :=
  missingCharacters gb2312 0x4E00 0x9FA6

def compatibleIdeographs : String :=
  "\uf92c\uf979\uf995\uf9e7\uf9f1\ufa0c\ufa0d\ufa0e\ufa0f\ufa11\ufa13\ufa14\ufa18\ufa1f\ufa20" ++
    "\ufa21\ufa23\ufa24\ufa27\ufa28\ufa29"

def ideograph? (index : Nat) : Option Char :=
  if index < otherIdeographs.size then otherIdeographs[index]?
  else compatibleIdeographs.toList[index - otherIdeographs.size]?

/-- The number of a cell in the areas of those ideographs: the first area has whole rows, the second
one has the left part of each row. -/
def ideographIndex? (first second : Nat) : Option Nat :=
  let column := if second < 0x7F then second - 0x40 else second - 0x41
  if second < 0x40 || second == 0x7F || 0xFE < second then none
  else if 0x81 ≤ first && first ≤ 0xA0 then some ((first - 0x81) * 190 + column)
  else if 0xAA ≤ first && first ≤ 0xFE && second ≤ 0xA0 then
    some (32 * 190 + (first - 0xAA) * 96 + column)
  else none

def character? (first second : Nat) : Option Char :=
  cell? gbkSigns first second <|> loweredCell? gb2312 first second <|>
    (ideographIndex? first second).bind ideograph?

def read (bytes : List UInt8) : Option (List Symbol) :=
  readPairs (fun first second => alone (character? first second)) bytes

end Gbk

namespace Gb18030

def privateCode? (first second : Nat) : Option Nat :=
  if 0xA1 ≤ second && second ≤ 0xFE then
    if 0xAA ≤ first && first ≤ 0xAF then some (0xE000 + (first - 0xAA) * 94 + (second - 0xA1))
    else if 0xF8 ≤ first && first ≤ 0xFE then some (0xE234 + (first - 0xF8) * 94 + (second - 0xA1))
    else none
  else if 0xA1 ≤ first && first ≤ 0xA7 && 0x40 ≤ second && second ≤ 0xA0 && second != 0x7F then
    some (0xE4C6 + (first - 0xA1) * 96 + (if second < 0x7F then second - 0x40 else second - 0x41))
  else none

def pair? (first second : Nat) : Option Char :=
  Gbk.character? first second <|> (privateCode? first second).map Char.ofNat <|>
    cell? gb18030Signs first second

def number? (first second third fourth : Nat) : Option Nat :=
  if 0x81 ≤ first && first ≤ 0xFE && 0x81 ≤ third && third ≤ 0xFE && 0x30 ≤ fourth && fourth ≤ 0x39
  then some ((((first - 0x81) * 10 + (second - 0x30)) * 126 + (third - 0x81)) * 10 + (fourth - 0x30))
  else none

def firstPlaneCount : Nat := 39420

def otherPlanes : Nat := 15 * 12600

def code? (number : Nat) : Option Nat :=
  if number < firstPlaneCount then
    (CodeTable.floor? gb18030Runs number).map fun (start, code) => code + (number - start)
  else if otherPlanes ≤ number && number - otherPlanes ≤ 0xFFFFF then
    some (0x10000 + (number - otherPlanes))
  else none

def next (first : UInt8) (rest : List UInt8) : Sequence Unit :=
  if isBasic first then .code first.toNat 0 ()
  else match rest with
    | [] => .wrong 0
    | second :: behind =>
        if 0x30 ≤ second && second ≤ 0x39 then
          match behind with
          | third :: fourth :: _ =>
              match (number? first.toNat second.toNat third.toNat fourth.toNat).bind code? with
              | some code => .code code 3 ()
              | none => .wrong 0
          | _ => .wrong rest.length
        else .ofPair (alone (pair? first.toNat second.toNat)) ()

def read (bytes : List UInt8) : Option (List Symbol) :=
  readAll next bytes

end Gb18030

/-! The set that writes the national one in basic bytes. A tilde with a brace opens a section of
pairs or closes it, a second tilde makes it a character, and with a line end it means nothing. -/

namespace Tilde

def mark? (inPairs : Bool) (second : UInt8) : Option (List Symbol × Bool) :=
  match Char.ofNat second.toNat, inPairs with
  | '~', false => some ([.character '~'], false)
  | '\x7b', false => some ([], true)
  | '\n', false => some ([], false)
  | '\x7d', true => some ([], false)
  | _, _ => none

def next (inPairs : Bool) (first : UInt8) (rest : List UInt8) : Sequence Bool :=
  match rest with
  | [] => if first == 0x7E || inPairs || !isBasic first then .wrong 0 else .code first.toNat 0 inPairs
  | second :: _ =>
      if first == 0x7E then
        match mark? inPairs second with
        | some (symbols, mode) => .symbols symbols 1 mode
        | none => .wrong 0
      else if !isBasic first then .wrong 0
      else if inPairs then .ofPair (alone (cell? gb2312 first.toNat second.toNat)) inPairs
      else .code first.toNat 0 inPairs

def read (bytes : List UInt8) : Option (List Symbol) :=
  readFrom next false bytes

end Tilde

/-! Traditional characters -/

namespace Big5

def read (bytes : List UInt8) : Option (List Symbol) :=
  readPairs (fun first second => alone (cell? big5 first second)) bytes

def readVariant (bytes : List UInt8) : Option (List Symbol) :=
  readPairs (fun first second => alone (cell? cp950Signs first second <|> cell? big5 first second))
    bytes

end Big5

namespace Hkscs

def isOwn (first second : Nat) : Bool :=
  0xC6A1 ≤ cellKey first second && first ≤ 0xC8

def meaning (first second : Nat) : Option (List Char) :=
  let common := if isOwn first second then none else cell? big5 first second
  alone (common <|> cell? hkscs first second) <|> sequenceCell? hkscsPairs first second

def read (bytes : List UInt8) : Option (List Symbol) :=
  readPairs meaning bytes

end Hkscs

end Warden.Text.CharacterSet
