import Warden.Text.CharacterSet.Sequence
import Warden.Text.CodeTable

/-!
Sets of basic bytes and of pairs that begin beyond the basic alphabet. A pair is the cell of a table
whose keys are both bytes.
-/

namespace Warden.Text.CharacterSet

def cellKey (first second : Nat) : Nat :=
  first * 0x100 + second

def cell? (table : Array (Nat × String)) (row column : Nat) : Option Char :=
  CodeTable.character? table (cellKey row column)

def loweredCell? (table : Array (Nat × String)) (first second : Nat) : Option Char :=
  if 0x80 ≤ first && 0x80 ≤ second then cell? table (first - 0x80) (second - 0x80) else none

def sequenceCell? (table : List (Nat × String)) (row column : Nat) : Option (List Char) :=
  (table.lookup (cellKey row column)).map String.toList

def alone (character? : Option Char) : Option (List Char) :=
  character?.map fun character => [character]

def markedCodes (table : Array (Nat × String)) (bound : Nat) : Array Bool :=
  (table.toList.flatMap fun (_, characters) => characters.toList).foldl
    (fun marks character => marks.setIfInBounds character.toNat true) (Array.replicate bound false)

def missingCharacters (table : Array (Nat × String)) (first bound : Nat) : Array Char :=
  let marks := markedCodes table bound
  let codes := (List.range (bound - first)).map (first + ·)
  ((codes.filter fun code => marks[code]? == some false).map Char.ofNat).toArray

def readPairs (meaning : Nat → Nat → Option (List Char)) (bytes : List UInt8) :
    Option (List Symbol) :=
  readAll (fun first rest =>
    if isBasic first then .code first.toNat 0 ()
    else match rest with
      | [] => .wrong 0
      | second :: _ => .ofPair (meaning first.toNat second.toNat) ()) bytes

end Warden.Text.CharacterSet
