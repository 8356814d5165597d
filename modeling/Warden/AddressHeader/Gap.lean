import Warden.Text.EncodedWord

/-!
The marks of an address header, and the gaps between its words: blanks, and comments in parentheses.
A comment may hold other ones, to any depth, and a backslash in it takes the meaning from the next
symbol. One that is still open at the end of the header ends there.
-/

namespace Warden.AddressHeader

open Text

def isSpecial (character : Char) : Bool :=
  ['(', ')', '<', '>', '@', ',', ':', ';', '.', '\\', '"', '[', ']'].contains character

def endsAtom (character : Char) : Bool :=
  isSpecial character || isFold character

def endsDotAtom (character : Char) : Bool :=
  endsAtom character && character != '.'

def endsPhrase (character : Char) : Bool :=
  isSpecial character && !(['.', '"', '('].contains character)

def starts (kind : Char → Bool) : List Symbol → Bool
  | [] => false
  | symbol :: _ => symbol.fits kind

def guarded (isMark : Char → Bool) (symbol : Symbol) : List Symbol :=
  if symbol.fits isMark then [.character '\\', symbol] else [symbol]

/-- Where a gap has been read to: behind a blank or a comment, or in a comment, with how many other
ones around it and whether behind a backslash. -/
inductive Place
  | between (blank : Bool)
  | inside (around : Nat) (escaped : Bool)

namespace Place

def isCommentMark (character : Char) : Bool :=
  ['\\', '(', ')'].contains character

def next? : Place → Symbol → Option (List Symbol × Place)
  | .between blank, symbol =>
      if symbol.fits isFold || (blank && symbol.fits isBlank) then some ([symbol], .between true)
      else if symbol = .character '(' then some ([symbol], .inside 0 false)
      else none
  | .inside around true, symbol => some (guarded isCommentMark symbol, .inside around false)
  | .inside around false, .character '\\' => some ([], .inside around true)
  | .inside around false, .character '(' => some ([.character '('], .inside (around + 1) false)
  | .inside 0 false, .character ')' => some ([.character ')'], .between false)
  | .inside (around + 1) false, .character ')' =>
      some ([.character ')'], .inside around false)
  | .inside around false, symbol => some ([symbol], .inside around false)

def closing : Place → List Symbol
  | .between _ => []
  | .inside around _ => List.replicate (around + 1) (.character ')')

end Place

def gapFrom (place : Place) : List Symbol → List Symbol × List Symbol
  | [] => (place.closing, [])
  | symbol :: rest =>
      match place.next? symbol with
      | none => ([], symbol :: rest)
      | some (shown, next) =>
          let (more, behind) := gapFrom next rest
          (shown ++ more, behind)

/-- The gap at the start of a text as it is shown, which is empty if there is none, and what stands
behind it. -/
def gap (text : List Symbol) : List Symbol × List Symbol :=
  gapFrom (.between false) text

def skipGap (text : List Symbol) : List Symbol :=
  (gap text).2

def space (gap : List Symbol) : List Symbol :=
  if gap.isEmpty then [] else [.character ' ']

end Warden.AddressHeader
