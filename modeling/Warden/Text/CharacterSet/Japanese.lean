import Warden.Text.CharacterSet.Cp932
import Warden.Text.CharacterSet.Jis0208
import Warden.Text.CharacterSet.Jis0212
import Warden.Text.CharacterSet.Jis0213
import Warden.Text.CharacterSet.Pairs

/-!
The sets of Japanese. They hold the same tables by row and column, in two arrangements: one adds a
high bit to row and column, the other packs two rows into the columns of one first byte. The
extended sets come in two editions.
-/

namespace Warden.Text.CharacterSet

def halfWidthKana? (byte : Nat) : Option Char :=
  if 0xA1 ≤ byte && byte ≤ 0xDF then some (Char.ofNat (0xFEC0 + byte)) else none

def jisCell? (row column : Nat) : Option Char :=
  cell? jis0208 row column

namespace Extended

inductive Edition
  | first
  | second
  deriving DecidableEq

def newCells : List Nat :=
  [0x2E21, 0x2F7E, 0x4F54, 0x4F7E, 0x7427, 0x7E7A, 0x7E7B, 0x7E7C, 0x7E7D, 0x7E7E]

/-- A cell of the first plane. Where two tables have it the one of the two-byte set counts. -/
def firstPlane? (edition : Edition) (row column : Nat) : Option (List Char) :=
  if edition = .first && newCells.contains (cellKey row column) then none
  else alone (jisCell? row column <|> cell? jis0213First row column) <|>
    sequenceCell? jis0213Pairs row column

def ofFirstPlane (edition : Edition) (row column : Nat) : Sequence Unit :=
  if edition = .first && newCells.contains (cellKey row column) then .wrong 1
  else .ofPair (firstPlane? edition row column) ()

def secondPlane? (edition : Edition) (row column : Nat) : Option Char :=
  if edition = .first && cellKey row column == 0x7D3B then some '\u9b1d'
  else cell? jis0213Second row column

end Extended

/-! The arrangement in which a high bit is added to row and column. -/

namespace HighBit

def readWith (pair : Nat → Nat → Sequence Unit) (other : Nat → Nat → Option Char)
    (bytes : List UInt8) : Option (List Symbol) :=
  readAll (fun first rest =>
    if isBasic first then .code first.toNat 0 ()
    else match rest with
      | [] => .wrong 0
      | second :: behind =>
          if first == 0x8E then .ofPair (alone (halfWidthKana? second.toNat)) ()
          else if first == 0x8F then
            match behind with
            | [] => .wrong 1
            | third :: _ =>
                match other second.toNat third.toNat with
                | some character => .character character 2 ()
                | none => .wrong 0
          else pair first.toNat second.toNat) bytes

def lowered (byte : Nat) : Nat :=
  if byte < 0x80 then byte + 0x80 else byte - 0x80

def readFirst (bytes : List UInt8) : Option (List Symbol) :=
  readWith (fun first second => .ofPair (alone (loweredCell? jis0208 first second)) ())
    (fun second third => loweredCell? jis0212 second third) bytes

def extendedPair (edition : Extended.Edition) (first second : Nat) : Sequence Unit :=
  if cellKey first second == 0xA2B2 then .character '\uff5e' 1 ()
  else Extended.ofFirstPlane edition (lowered first) (lowered second)

def readExtended (edition : Extended.Edition) (bytes : List UInt8) : Option (List Symbol) :=
  readWith (extendedPair edition)
    (fun second third => Extended.secondPlane? edition (lowered second) (lowered third) <|>
      loweredCell? jis0212 second third) bytes

end HighBit

/-! The arrangement in which the columns of one first byte hold two rows. -/

namespace TwoRows

def place? (first second : Nat) : Option (Nat × Nat) :=
  if second < 0x40 || second == 0x7F || 0xFC < second then none
  else
    let pair := if first < 0xE0 then first - 0x81 else first - 0xC1
    let column := if second < 0x80 then second - 0x40 else second - 0x41
    some (if column < 0x5E then (2 * pair, column + 0x21) else (2 * pair + 1, column - 0x5E + 0x21))

def isFirstOfPair (byte : Nat) : Bool :=
  (0x81 ≤ byte && byte ≤ 0x9F) || (0xE0 ≤ byte && byte ≤ 0xFC)

def readWith (single : Nat → Option Char) (pair : Nat → Nat → Sequence Unit)
    (bytes : List UInt8) : Option (List Symbol) :=
  readAll (fun first rest =>
    match single first.toNat, rest with
    | some character, _ => .character character 0 ()
    | none, [] => .wrong 0
    | none, second :: _ => pair first.toNat second.toNat) bytes

def single? (byte : Nat) : Option Char :=
  if byte < 0x80 then some (Char.ofNat byte) else halfWidthKana? byte

def commonCell? (first second : Nat) : Option Char := do
  let (row, column) ← place? first second
  jisCell? (row + 0x21) column

def pair (first second : Nat) : Sequence Unit :=
  .ofPair (if isFirstOfPair first then alone (commonCell? first second) else none) ()

def read (bytes : List UInt8) : Option (List Symbol) :=
  readWith single? pair bytes

/-! The variant with more signs and an area for private use -/

def variantSingle? (byte : Nat) : Option Char :=
  if byte ≤ 0x80 then some (Char.ofNat byte)
  else if byte == 0xA0 then some '\uf8f0'
  else if 0xFD ≤ byte then some (Char.ofNat (0xF8F1 + (byte - 0xFD)))
  else halfWidthKana? byte

def privateCell? (first second : Nat) : Option Char :=
  if 0xF0 ≤ first && first ≤ 0xF9 then
    (place? first second).map fun (row, column) =>
      Char.ofNat (0xE000 + (row - 2 * (0xF0 - 0xC1)) * 0x5E + (column - 0x21))
  else none

def variantPair (first second : Nat) : Sequence Unit :=
  let common := if first ≤ 0xEA && isFirstOfPair first then commonCell? first second else none
  .ofPair (alone (cell? cp932Signs first second <|> common <|> privateCell? first second)) ()

def readVariant (bytes : List UInt8) : Option (List Symbol) :=
  readWith variantSingle? variantPair bytes

/-! The extended sets -/

def extendedSingle? (byte : Nat) : Option Char :=
  if byte == 0x5C then some '¥' else if byte == 0x7E then some '‾' else single? byte

/-- The row of the second plane that the rows behind the first plane hold: its first rows are few
and far between. -/
def secondRow (row : Nat) : Nat :=
  if 0x67 ≤ row then row + 0x07
  else if 0x63 ≤ row || row == 0x5F then row - 0x37
  else row - 0x3D

def extendedPair (edition : Extended.Edition) (first second : Nat) : Sequence Unit :=
  match if isFirstOfPair first then place? first second else none with
  | none => .wrong 0
  | some (row, column) =>
      if row == 0 && column == 0x40 then .character '\\' 1 ()
      else if row < 0x5E then Extended.ofFirstPlane edition (row + 0x21) column
      else .ofPair (alone (Extended.secondPlane? edition (secondRow row) column)) ()

def readExtended (edition : Extended.Edition) (bytes : List UInt8) : Option (List Symbol) :=
  readWith extendedSingle? (extendedPair edition) bytes

end TwoRows

end Warden.Text.CharacterSet
