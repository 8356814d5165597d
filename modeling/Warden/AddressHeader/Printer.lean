import Warden.AddressHeader.Reader
import Warden.Text.Lines

/-!
The text of an address header once it has been read: gaps are single blanks or left out, encoded
words are decoded, and what needs quotation marks has them.
-/

namespace Warden.AddressHeader

open Text

def Item.meaning : Item → List Symbol
  | .word found => space found.before ++ found.core.meaning ++ space found.after
  | .gap => [.character ' ']
  | .point => [.character '.']
  | .backslash => [.character '\\']

def Item.withoutBefore : Item → Except Problem (List Item)
  | .word found => .ok [.word { found with before := [] }]
  | .gap => .ok []
  | .point | .backslash => .error .endPoint

def Item.withoutAfter : Item → Except Problem (List Item)
  | .word found => .ok [.word { found with after := [] }]
  | .gap => .ok []
  | .point | .backslash => .error .endPoint

def nameText (name : List Item) : Except Problem (List Symbol) := do
  match name with
  | [] => return []
  | first :: rest =>
      let trimmed := (← first.withoutBefore) ++ rest
      match trimmed.getLast? with
      | none => throw .pastListEnd
      | some last => return (trimmed.dropLast ++ (← last.withoutAfter)).flatMap Item.meaning

def pointFollows : List Item → Bool
  | [] | .point :: _ => true
  | .gap :: rest => pointFollows rest
  | _ => false

/-- The text of a local part in the obsolete form. It has no gaps at its ends and around points, and
none that stand alone. -/
def itemsText (afterPoint : Bool) : List Item → List Symbol
  | [] => []
  | .word word :: rest =>
      (if afterPoint then [] else space word.before) ++ word.core.meaning ++
        (if pointFollows rest then [] else space word.after) ++ itemsText false rest
  | .gap :: rest => itemsText afterPoint rest
  | .point :: rest => .character '.' :: itemsText true rest
  | .backslash :: rest => .character '\\' :: itemsText false rest

def LocalPart.text : LocalPart → Except Problem (List Symbol)
  | .plain core => if core.isHollow then .error .pastListEnd else .ok core.meaning
  | .items found => .ok (itemsText true found)

def quotedIf (isMark : Char → Bool) (text : List Symbol) : List Symbol :=
  if text.any (·.fits isMark) then quote text else text

def specText (localPart domain : List Symbol) : List Symbol :=
  let local_ := quotedIf endsDotAtom localPart
  if domain.isEmpty then local_ else local_ ++ .character '@' :: domain

def mailboxText (name localPart domain : List Symbol) : List Symbol :=
  let spec := specText localPart domain
  if name.isEmpty then if spec.isEmpty then written "<>" else spec
  else quotedIf isSpecial name ++ written " <" ++ spec ++ written ">"

def Mailbox.text (mailbox : Mailbox) : Except Problem (List Symbol) := do
  let name ← nameText mailbox.name
  let localPart ← (mailbox.spec.map Spec.localPart).elim (pure []) LocalPart.text
  let domain := (mailbox.spec.map Spec.domain).getD []
  if (name ++ localPart ++ domain).any (·.fits isMailLineEnd) then throw .lineEnd
  return mailboxText name localPart domain

def listed (texts : List (List Symbol)) : List Symbol :=
  (written ", ").intercalate texts

def Entry.text : Entry → Except Problem (List Symbol)
  | .mailbox single => single.text
  | .group name members => do
      let name ← nameText name
      let texts ← members.mapM Mailbox.text
      let inside := if texts.isEmpty then [] else .character ' ' :: listed texts
      return quotedIf isSpecial name ++ .character ':' :: inside ++ [.character ';']
  | .groupAsMailbox name => do
      let _ ← nameText name
      throw .groupAsMailbox

/-- What an address header says, once it has been read. -/
def decoded (text : String) : Except Problem (List Symbol) := do
  return listed (← (← entries (written text)).mapM Entry.text)

end Warden.AddressHeader
