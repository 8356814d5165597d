import Warden.Text.CharacterSet.KsX1001
import Warden.Text.CharacterSet.Pairs

/-!
The sets of Korean. Beside the national set one of them has all syllables, in order; another one
writes a syllable as the numbers of its letters; and a third one spells other syllables out in four
pairs.
-/

namespace Warden.Text.CharacterSet

namespace Hangul

def initials : List Char :=
  "ㄱㄲㄴㄷㄸㄹㅁㅂㅃㅅㅆㅇㅈㅉㅊㅋㅌㅍㅎ".toList

def finals : List Char :=
  "ㄱㄲㄳㄴㄵㄶㄷㄹㄺㄻㄼㄽㄾㄿㅀㅁㅂㅄㅅㅆㅇㅈㅊㅋㅌㅍㅎ".toList

def vowel (index : Nat) : Char :=
  Char.ofNat (0x314F + index)

def syllable (initial vowel final : Nat) : Char :=
  Char.ofNat (0xAC00 + (initial * 21 + vowel) * 28 + final)

end Hangul

namespace KsX1001

def letter (byte : Nat) : Char :=
  Char.ofNat (0x3131 + byte - 0xA1)

def filler : Nat := 0xD4

/-- A syllable spelled out: the letter pairs of its initial, of its vowel and of its final, behind a
pair that announces them. -/
def spelled? : List UInt8 → Option Char
  | 0xA4 :: initial :: 0xA4 :: vowel :: 0xA4 :: final :: _ => do
      let initial ← if initial.toNat < 0xA1 then none
        else Hangul.initials.idxOf? (letter initial.toNat)
      let vowel ← if 0xBF ≤ vowel && vowel ≤ 0xD3 then some (vowel.toNat - 0xBF) else none
      let final ←
        if final.toNat == filler then some 0
        else if final.toNat < 0xA1 then none
        else (Hangul.finals.idxOf? (letter final.toNat)).map (· + 1)
      return Hangul.syllable initial vowel final
  | _ => none

def next (first : UInt8) (rest : List UInt8) : Sequence Unit :=
  if isBasic first then .code first.toNat 0 ()
  else match rest with
    | [] => .wrong 0
    | second :: letters =>
        if first == 0xA4 && second.toNat == filler then
          if letters.length < 6 then .wrong rest.length
          else match spelled? letters with
            | some syllable => .character syllable 7 ()
            | none => .wrong 0
        else .ofPair (alone (loweredCell? ksX1001 first.toNat second.toNat)) ()

def read (bytes : List UInt8) : Option (List Symbol) :=
  readAll next bytes

end KsX1001

/-! The national set with all other syllables in the cells around it. -/

namespace AllSyllables

def otherSyllables : Array Char :=
  missingCharacters ksX1001 0xAC00 0xD7A4

def column? (second : Nat) : Option Nat :=
  if 0x41 ≤ second && second ≤ 0x5A then some (second - 0x41)
  else if 0x61 ≤ second && second ≤ 0x7A then some (second - 0x61 + 26)
  else if 0x81 ≤ second && second ≤ 0xFE then some (second - 0x81 + 52)
  else none

def index? (first second : Nat) : Option Nat := do
  let column ← column? second
  if 0x81 ≤ first && first ≤ 0xA0 then some ((first - 0x81) * 178 + column)
  else if 0xA1 ≤ first && column < 84 then some (32 * 178 + (first - 0xA1) * 84 + column)
  else none

def character? (first second : Nat) : Option Char :=
  loweredCell? ksX1001 first second <|> (index? first second).bind (otherSyllables[·]?)

def read (bytes : List UInt8) : Option (List Symbol) :=
  readPairs (fun first second => alone (character? first second)) bytes

end AllSyllables

/-! The set that packs the numbers of the letters of a syllable into two bytes, five bits each. -/

namespace Johab

inductive Letter
  | empty
  | index (number : Nat)

def initial? (bits : Nat) : Option Letter :=
  if bits = 1 then some .empty
  else if 2 ≤ bits && bits ≤ 20 then some (.index (bits - 2))
  else none

/-- Vowels come in groups of six, with two unused numbers in front of each group. -/
def vowel? (bits : Nat) : Option Letter :=
  if bits = 2 then some .empty
  else if bits < 3 || 30 ≤ bits || bits % 8 < 2 then none
  else some (.index (bits - 3 - 2 * (bits / 8)))

def final? (bits : Nat) : Option Letter :=
  if bits = 1 then some .empty
  else if 2 ≤ bits && bits ≤ 17 then some (.index (bits - 2))
  else if 19 ≤ bits && bits ≤ 29 then some (.index (bits - 3))
  else none

def composed? : Letter → Letter → Letter → Option Char
  | .empty, .empty, .empty => some '\u3000'
  | .index initial, .empty, .empty => Hangul.initials[initial]?
  | .empty, .index vowel, .empty => some (Hangul.vowel vowel)
  | .empty, .empty, .index final => Hangul.finals[final]?
  | .index initial, .index vowel, .empty => some (Hangul.syllable initial vowel 0)
  | .index initial, .index vowel, .index final => some (Hangul.syllable initial vowel (final + 1))
  | _, _, _ => none

def syllable? (bits : Nat) : Option Char := do
  composed? (← initial? (bits / 0x400 % 0x20)) (← vowel? (bits / 0x20 % 0x20)) (← final? (bits % 0x20))

def sign? (first second : Nat) : Option Char :=
  let row := if first < 0xE0 then 2 * (first - 0xD9) else 2 * first - 0x197
  let column := if second < 0x91 then second - 0x31 else second - 0x43
  if first < 0xD9 || first == 0xDF || 0xF9 < first || second < 0x31 ||
      (0x80 ≤ second && second < 0x91) || second % 0x80 == 0x7F ||
      (first == 0xDA && 0xA1 ≤ second && second ≤ 0xD3) then none
  else if column < 0x5E then cell? ksX1001 (row + 0x21) (column + 0x21)
  else cell? ksX1001 (row + 0x22) (column - 0x5E + 0x21)

def character? (first second : Nat) : Option Char :=
  if first < 0xD8 then syllable? (cellKey first second) else sign? first second

def read (bytes : List UInt8) : Option (List Symbol) :=
  readPairs (fun first second => alone (character? first second)) bytes

end Johab

end Warden.Text.CharacterSet
