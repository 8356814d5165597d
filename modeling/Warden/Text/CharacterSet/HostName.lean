import Warden.Text.CharacterSet.HostNameTables
import Warden.Text.CharacterSet.Punycode
import Warden.Text.CodeTable

/-!
The set of host names: labels of basic characters, of which those with a certain opening are in
Punycode. A name is readable only if every such label is the one way to write what it says, that is,
if preparing its characters leaves them as they are.
-/

namespace Warden.Text.CharacterSet.HostName

def isBasicCharacter (character : Char) : Bool :=
  character.toNat < 0x80

def isPrepared (character : Char) : Bool :=
  isBasicCharacter character ||
    match CodeTable.floor? preparedRuns character.toNat with
    | some (first, last, step) =>
        character.toNat ≤ last && (character.toNat - first) % step == 0
    | none => false

def markClass (character : Char) : Nat :=
  match CodeTable.floor? markClasses character.toNat with
  | some (_, last, markClass) => if character.toNat ≤ last then markClass else 0
  | none => 0

def isIn (ranges : Array (Nat × Nat)) (character : Char) : Bool :=
  match CodeTable.floor? ranges character.toNat with
  | some (_, last) => character.toNat ≤ last
  | none => false

/-! Letters and their marks -/

def vowelCount : Nat := 21

def endCount : Nat := 28

def syllableCount : Nat := 19 * vowelCount * endCount

def syllableParts? (code : Nat) : Option (Nat × Nat) :=
  let index := code - 0xAC00
  if code < 0xAC00 || syllableCount ≤ index then none
  else if index % endCount == 0 then
    some (0x1100 + index / (vowelCount * endCount), 0x1161 + index / endCount % vowelCount)
  else some (code - index % endCount, 0x11A7 + index % endCount)

def joinedSyllable? (first second : Nat) : Option Nat :=
  if 0x1100 ≤ first && first < 0x1113 && 0x1161 ≤ second && second < 0x1161 + vowelCount then
    some (0xAC00 + ((first - 0x1100) * vowelCount + (second - 0x1161)) * endCount)
  else if 0xAC00 ≤ first && first < 0xAC00 + syllableCount && (first - 0xAC00) % endCount == 0 &&
      0x11A7 < second && second < 0x11A7 + endCount then some (first + (second - 0x11A7))
  else none

def parts? (character : Char) : Option (Char × Char) :=
  match syllableParts? character.toNat with
  | some (first, second) => some (Char.ofNat first, Char.ofNat second)
  | none => joinedLetters.findSome? fun (mark, letters, joined) => do
      let index ← joined.toList.idxOf? character
      return (← letters.toList[index]?, mark)

def joined? (letter mark : Char) : Option Char :=
  match joinedSyllable? letter.toNat mark.toNat with
  | some code => some (Char.ofNat code)
  | none => do
      let (letters, joined) ← joinedLetters.lookup mark
      joined.toList[← letters.toList.idxOf? letter]?

/-- No character is made of more parts than this, one inside the other. -/
def deepestParts : Nat := 4

def inParts : Nat → Char → List Char
  | 0, character => [character]
  | depth + 1, character =>
      match parts? character with
      | some (letter, mark) => inParts depth letter ++ [mark]
      | none => [character]

def insertMark (character : Char) : List Char → List Char
  | [] => [character]
  | next :: rest =>
      if 0 < markClass next && markClass next < markClass character then
        next :: insertMark character rest
      else character :: next :: rest

/-- Joins marks with the letter before them. A mark cannot pass another one of its class or of a
higher one, which are kept, the last one first, together with the class of that one. -/
def joinFrom (letter : Char) (kept : List Char) (last : Nat) : List Char → List Char
  | [] => letter :: kept.reverse
  | next :: rest =>
      let order := markClass next
      match if kept.isEmpty || last < order then joined? letter next else none with
      | some whole => joinFrom whole kept last rest
      | none =>
          if order = 0 then letter :: kept.reverse ++ joinFrom next [] 0 rest
          else joinFrom letter (next :: kept) order rest

def joinMarks : List Char → List Char
  | [] => []
  | first :: rest =>
      if markClass first = 0 then joinFrom first [] 0 rest else first :: joinMarks rest

def composed (text : List Char) : List Char :=
  joinMarks ((text.flatMap (inParts deepestParts)).foldr insertMark [])

def hasOneDirection (text : List Char) : Bool :=
  !text.any (isIn rightToLeft) ||
    (!text.any (isIn leftToRight) && (text.head?.any (isIn rightToLeft)) &&
      (text.getLast?.any (isIn rightToLeft)))

/-! Labels -/

def opening : List Char := "xn--".toList

def labelLimit : Nat := 64

def isLabelText (text : List Char) : Bool :=
  text.any (fun character => !isBasicCharacter character) && text.all isPrepared &&
    composed text == text && hasOneDirection text && !opening.isPrefixOf text

def character? (code : Nat) : Option Char :=
  if code < 0xD800 || (0xDFFF < code && code < 0x110000) then some (Char.ofNat code) else none

def label? (label : List UInt8) : Option (List Char) :=
  let characters := label.map fun byte => Char.ofNat byte.toNat
  if !label.all isBasic then none
  else if !opening.isPrefixOf characters then some characters
  else do
    let inside := label.drop opening.length
    let text ← (← Punycode.codes? inside).mapM character?
    let hasEmptyStart := (Punycode.split inside).1.isEmpty && inside.contains 0x2D
    if label.length < labelLimit && !hasEmptyStart && isLabelText (text.map Char.toLower) then
      some text
    else none

def read (bytes : List UInt8) : Option (List Symbol) := do
  let labels ← (bytes.splitOn 0x2E).mapM label?
  return (['.'].intercalate labels).map Symbol.character

end Warden.Text.CharacterSet.HostName
