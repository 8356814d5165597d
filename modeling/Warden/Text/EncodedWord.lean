import Warden.Text.Base64
import Warden.Text.Blank
import Warden.Text.CharacterSet
import Warden.Text.Hexadecimal
import Warden.Text.Symbol

/-!
Header texts with encoded words. A word `=?set?encoding?text?=` stands for a text of that character
set, written in base64 or with escaped bytes. Words may touch other characters, and the blanks
between two words do not count. What is unreadable in its set is no word. Bytes that have no
character in their set are read as UTF-8 together with what stands around them.
-/

namespace Warden.Text

def isFold (character : Char) : Bool :=
  character == ' ' || character == '\t'

namespace EncodedWord

def splitAtClose : List Symbol → Option (List Symbol × List Symbol)
  | [] => none
  | .character '?' :: .character '=' :: rest => some ([], rest)
  | symbol :: rest =>
      (splitAtClose rest).map fun (inside, behind) => (symbol :: inside, behind)

theorem length_of_splitAtClose {text inside behind : List Symbol}
    (found : splitAtClose text = some (inside, behind)) : behind.length < text.length := by
  fun_induction splitAtClose text generalizing inside with
  | case1 => cases found
  | case2 rest =>
      cases found
      simp only [List.length_cons]
      omega
  | case3 symbol rest _ ih =>
      obtain ⟨⟨inner, after⟩, recursive, same⟩ := Option.map_eq_some_iff.1 found
      cases same
      have shorter := ih recursive
      simp only [List.length_cons]
      omega

def beginsWithByte : List Symbol → Bool
  | .character high :: .character low :: _ => (hexValue? high).isSome && (hexValue? low).isSome
  | _ => false

/-- The inside of a word after its opening mark, and what stands behind the word. A closing mark in
front of a byte is the end of the encoding and the escape of that byte, if the inside has no other
end of the encoding. The word then goes on to the next closing mark, or else to the end. -/
def inside? (text : List Symbol) : Option (List Symbol × List Symbol) := do
  let (inside, behind) ← splitAtClose text
  if beginsWithByte behind && inside.count (.character '?') < 2 then
    let (more, rest) := (splitAtClose behind).getD (behind, [])
    some (inside ++ .character '?' :: .character '=' :: more, rest)
  else some (inside, behind)

theorem length_of_inside {text inside behind : List Symbol}
    (found : inside? text = some (inside, behind)) : behind.length < text.length := by
  obtain ⟨⟨first, after⟩, split, continued⟩ := Option.bind_eq_some_iff.1 found
  have shorter := length_of_splitAtClose split
  dsimp only at continued
  split at continued
  · cases again : splitAtClose after with
    | none =>
        simp only [again, Option.getD_none, Option.some.injEq, Prod.mk.injEq] at continued
        simp only [← continued.2, List.length_nil]
        omega
    | some pair =>
        obtain ⟨more, remaining⟩ := pair
        have shortest := length_of_splitAtClose again
        simp only [again, Option.getD_some, Option.some.injEq, Prod.mk.injEq] at continued
        rw [← continued.2]
        omega
  · simp only [Option.some.injEq, Prod.mk.injEq] at continued
    rw [← continued.2]
    exact shorter

def unescaped : List Char → List UInt8
  | [] => []
  | '_' :: rest => 0x20 :: unescaped rest
  | '=' :: high :: low :: rest =>
      match hexValue? high, hexValue? low with
      | some upper, some lower => UInt8.ofNat (upper * 16 + lower) :: unescaped rest
      | _, _ => 0x3D :: unescaped (high :: low :: rest)
  | character :: rest => UInt8.ofNat character.toNat :: unescaped rest

def bytes? (encoding : List Symbol) (text : List Char) : Option (List UInt8) :=
  match encoding with
  | [.character 'q'] | [.character 'Q'] => some (unescaped text)
  | [.character 'b'] | [.character 'B'] =>
      some ((Base64.decode? text).getD (text.map fun character => UInt8.ofNat character.toNat))
  | _ => none

def byteCharacter? : Symbol → Option Char
  | .character value => if value.toNat < 0x80 then some value else none
  | .raw byte => some (Char.ofNat byte.toNat)
  | .half _ => none

def readLabelled (label : List Symbol) (bytes : List UInt8) : Option (List Symbol) :=
  match label.mapM Symbol.character? with
  | none => CharacterSet.Basic.read bytes
  | some name => if name.contains '\x00' then none else CharacterSet.readLabelled name bytes

def symbols? (inside : List Symbol) : Option (List Symbol) :=
  match inside.splitOn (.character '?') with
  | [label, encoding, text] => do
      let bytes ← bytes? encoding (← text.mapM byteCharacter?)
      readLabelled (label.takeWhile (· != .character '*')) bytes
  | _ => none

def read? : List Symbol → Option (List Symbol × List Symbol)
  | .character '=' :: .character '?' :: rest => do
      let (inside, behind) ← inside? rest
      return (← symbols? inside, behind)
  | _ => none

theorem length_of_read {text behind symbols : List Symbol}
    (found : read? text = some (symbols, behind)) : behind.length < text.length := by
  unfold read? at found
  split at found
  · obtain ⟨⟨inside, after⟩, opened, continued⟩ := Option.bind_eq_some_iff.1 found
    obtain ⟨symbols, _, same⟩ := Option.bind_eq_some_iff.1 continued
    cases same
    have shorter := length_of_inside opened
    simp only [List.length_cons]
    omega
  · cases found

end EncodedWord

inductive HeaderPart
  | blanks (symbols : List Symbol)
  | plain (symbols : List Symbol)
  | word (symbols : List Symbol)

namespace HeaderPart

def opensWord : List Symbol → Bool
  | .character '=' :: .character '?' :: _ => true
  | _ => false

def closesInLine : List Symbol → Bool
  | [] => false
  | .character '?' :: .character '=' :: _ => true
  | symbol :: rest => symbol != .character '\n' && closesInLine rest

def isEncoding (symbol : Symbol) : Bool :=
  symbol.fits fun character => ['q', 'Q', 'b', 'B'].contains character

def beginsWithWord : List Symbol → Bool
  | .character '=' :: .character '?' :: rest =>
      match rest.dropWhile (· != .character '?') with
      | .character '?' :: encoding :: .character '?' :: text =>
          isEncoding encoding && closesInLine text
      | _ => false
  | _ => false

def holdsWord : List Symbol → Bool
  | [] => false
  | symbol :: rest => beginsWithWord (symbol :: rest) || holdsWord rest

def beforeOpening : List Symbol → List Symbol
  | [] => []
  | .character '=' :: .character '?' :: _ => []
  | symbol :: rest => symbol :: beforeOpening rest

/-- How much of a text without folds is plain, behind its first symbol: what stands in front of the
first opening mark if a word is in it, and otherwise all of it. A text that is no word although it
begins with such a mark is plain as a whole. -/
def plainRest (first : Symbol) (rest : List Symbol) : List Symbol :=
  if !opensWord (first :: rest) && holdsWord (first :: rest) then beforeOpening rest else rest

def next (first : Symbol) (rest : List Symbol) : HeaderPart × List Symbol :=
  if first.fits isFold then
    (.blanks (first :: rest.takeWhile (·.fits isBlank)), rest.dropWhile (·.fits isBlank))
  else
    match EncodedWord.read? (first :: rest) with
    | some (symbols, behind) => (.word symbols, behind)
    | none =>
        let plain := plainRest first (rest.takeWhile fun symbol => !symbol.fits isFold)
        (.plain (first :: plain), rest.drop plain.length)

theorem length_next_le (first : Symbol) (rest : List Symbol) :
    (next first rest).2.length ≤ rest.length := by
  unfold next
  split
  · exact (List.dropWhile_suffix _).length_le
  · split
    · rename_i found
      have shorter := EncodedWord.length_of_read found
      simp only [List.length_cons] at shorter
      exact Nat.le_of_lt_succ shorter
    · simp only [List.length_drop]
      omega

def parts : List Symbol → List HeaderPart
  | [] => []
  | first :: rest =>
      let found := next first rest
      found.1 :: parts found.2
termination_by text => text.length
decreasing_by exact Nat.lt_succ_of_le (length_next_le first rest)

def joined (afterWord : Bool) : List HeaderPart → List Symbol
  | [] => []
  | .blanks symbols :: .word more :: rest =>
      (if afterWord then [] else symbols) ++ more ++ joined true rest
  | .word symbols :: rest => symbols ++ joined true rest
  | .blanks symbols :: rest | .plain symbols :: rest => symbols ++ joined false rest

end HeaderPart

def written (text : String) : List Symbol :=
  text.toList.map Symbol.character

def decodedHeader (text : String) : Except HalvesRun String :=
  Symbol.text (HeaderPart.joined false (HeaderPart.parts (written text)))

end Warden.Text
