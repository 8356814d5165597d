import Warden.AddressHeader.Gap

/-!
The words of an address header, each with the gaps around it: an atom, an encoded word or a quoted
text. Phrases and the local parts of addresses are made of them.
-/

namespace Warden.AddressHeader

open Text

/-- Repeats a step to its end, as long as it takes something from the text. -/
def manyM {m : Type → Type} [Monad m] {α : Type}
    (step : List Symbol → m (Option (α × List Symbol))) (text : List Symbol) :
    m (List α × List Symbol) := do
  match ← step text with
  | none => return ([], text)
  | some (item, rest) =>
      if rest.length < text.length then
        let (items, behind) ← manyM step rest
        return (item :: items, behind)
      else return ([], text)
termination_by text.length

def many {α : Type} (step : List Symbol → Option (α × List Symbol)) (text : List Symbol) :
    List α × List Symbol :=
  Id.run (manyM (fun text => pure (step text)) text)

/-- What is written up to one of some marks or a fold, without the backslashes that take the meaning
from a mark. -/
def unescaped (isEnd : Char → Bool) (escaped : Bool) : List Symbol → List Symbol × List Symbol
  | [] => ([], [])
  | symbol :: rest =>
      if symbol.fits isFold || (!escaped && symbol.fits isEnd) then ([], symbol :: rest)
      else if !escaped && symbol = .character '\\' then unescaped isEnd true rest
      else
        let (taken, behind) := unescaped isEnd false rest
        (symbol :: taken, behind)

def quotedPart? : List Symbol → Option (HeaderPart × List Symbol)
  | [] | .character '"' :: _ => none
  | symbol :: rest =>
      if symbol.fits isFold then
        some (.blanks (symbol :: rest.takeWhile (·.fits isBlank)),
          rest.dropWhile (·.fits isBlank))
      else
        match EncodedWord.read? (symbol :: rest) with
        | some (symbols, behind) => some (.word symbols, behind)
        | none =>
            let (plain, behind) := unescaped (· == '"') false (symbol :: rest)
            some (.plain plain, behind)

/-- What a word is without its gaps. A quotation mark that ends the header quotes nothing. -/
inductive Core
  | atom (symbols : List Symbol)
  | encoded (symbols : List Symbol)
  | quoted (symbols : List Symbol)
  | openQuote

namespace Core

def isQuoteMark (character : Char) : Bool :=
  character == '\\' || character == '"'

end Core

def quote (symbols : List Symbol) : List Symbol :=
  .character '"' :: symbols.flatMap (guarded Core.isQuoteMark) ++ [.character '"']

def foldless : List Symbol → List Symbol
  | [] => []
  | symbol :: rest =>
      if symbol.fits isFold then .character ' ' :: foldless (rest.dropWhile (·.fits isBlank))
      else symbol :: foldless rest
termination_by symbols => symbols.length
decreasing_by
  · exact Nat.lt_succ_of_le (List.dropWhile_suffix _).length_le
  · exact Nat.lt_succ_self _

namespace Core

def shown : Core → List Symbol
  | .atom symbols | .encoded symbols => symbols
  | .quoted symbols => quote symbols
  | .openQuote => quote []

def meaning : Core → List Symbol
  | .atom symbols | .quoted symbols => symbols
  | .encoded symbols => foldless symbols
  | .openQuote => []

def isHollow : Core → Bool
  | .encoded symbols => symbols.isEmpty
  | .openQuote => true
  | _ => false

end Core

def quotedCore : List Symbol → Core × List Symbol
  | [] => (.openQuote, [])
  | text =>
      let (parts, behind) := many quotedPart? text
      (.quoted (HeaderPart.joined false parts), behind.tail)

def atomText? (text : List Symbol) : Option (Core × List Symbol) :=
  let (symbols, behind) := text.span fun symbol => !symbol.fits endsAtom
  if symbols.isEmpty then none else some (.atom symbols, behind)

def dotAtomText? (text : List Symbol) : Option (Core × List Symbol) :=
  let (symbols, behind) := text.span fun symbol => !symbol.fits endsDotAtom
  if (symbols.splitOn (.character '.')).any List.isEmpty then none
  else some (.atom symbols, behind)

def encodedOr (plain? : List Symbol → Option (Core × List Symbol)) (text : List Symbol) :
    Option (Core × List Symbol) :=
  match EncodedWord.read? text with
  | some (symbols, behind) => some (.encoded symbols, behind)
  | none => plain? text

def atom? (text : List Symbol) : Option (Core × List Symbol) :=
  encodedOr atomText? text

def dotAtom? (text : List Symbol) : Option (Core × List Symbol) :=
  encodedOr dotAtomText? text

def core? : List Symbol → Option (Core × List Symbol)
  | .character '"' :: rest => some (quotedCore rest)
  | text => atom? text

structure Word where
  before : List Symbol
  core : Core
  after : List Symbol

def Word.shown (word : Word) : List Symbol :=
  word.before ++ word.core.shown ++ word.after

def wordOf? (core? : List Symbol → Option (Core × List Symbol)) (text : List Symbol) :
    Option (Word × List Symbol) :=
  let (before, inner) := gap text
  (core? inner).map fun (core, rest) =>
    let (after, behind) := gap rest
    (⟨before, core, after⟩, behind)

/-- What a phrase is made of, and a local part in the obsolete form. In that one a backslash may
stand where it has no meaning. -/
inductive Item
  | word (word : Word)
  | gap
  | point
  | backslash

def phraseItem? (text : List Symbol) : Option (Item × List Symbol) :=
  if text.isEmpty || starts endsPhrase text then none
  else if starts (· == '.') text then some (.point, text.tail)
  else
    match wordOf? core? text with
    | some (word, behind) => some (.word word, behind)
    | none => some (.gap, skipGap text)

def localItem? : List Symbol → Option (Item × List Symbol)
  | .character '\\' :: rest => some (.backslash, rest)
  | text => phraseItem? text

def phrase (text : List Symbol) : List Item × List Symbol :=
  many phraseItem? text

def localItems (text : List Symbol) : List Item × List Symbol :=
  many localItem? text

end Warden.AddressHeader
