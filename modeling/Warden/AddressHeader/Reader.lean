import Warden.AddressHeader.Word

/-!
The entries of an address header: mailboxes and groups of mailboxes. What is no mailbox is passed up
to the next comma and stands in the header as one without an address. Some texts cannot be read at
all.
-/

namespace Warden.AddressHeader

open Text

inductive Problem
  | pastTextEnd
  | pastListEnd
  | openLiteral
  | blankLiteral
  | endPoint
  | firstPoint
  | groupAsMailbox
  | lineEnd
  deriving DecidableEq, Repr

def Problem.message : Problem → String
  | .pastTextEnd => "string index out of range"
  | .pastListEnd => "list index out of range"
  | .openLiteral => "'InvalidHeaderDefect' object has no attribute 'all_defects'"
  | .blankLiteral => "cannot access local variable 'pos' where it is not associated with a value"
  | .endPoint => "'str' object has no attribute 'token_type'"
  | .firstPoint => "'ValueTerminal' object does not support item assignment"
  | .groupAsMailbox => "'Group' object has no attribute 'local_part'"
  | .lineEnd => "invalid arguments; address parts cannot contain CR or LF"

/-- Why a reader gives up: the text is of another form, which leaves it to the next reader, or the
header cannot be read. -/
inductive Trouble
  | mismatch
  | problem (problem : Problem)

abbrev Reader (α : Type) : Type :=
  List Symbol → Except Trouble (α × List Symbol)

def orElse {α : Type} (first second : Reader α) : Reader α := fun text =>
  match first text with
  | .error .mismatch => second text
  | other => other

inductive LocalPart
  | plain (core : Core)
  | items (items : List Item)

structure Spec where
  localPart : LocalPart
  domain : List Symbol

structure Mailbox where
  name : List Item
  spec : Option Spec

def Mailbox.unreadable : Mailbox :=
  ⟨[], none⟩

inductive Entry
  | mailbox (mailbox : Mailbox)
  | group (name : List Item) (members : List Mailbox)
  | groupAsMailbox (name : List Item)

def goesOn (text : List Symbol) : Bool :=
  !text.isEmpty && (!starts endsPhrase text || starts (· == '\\') text)

def obsoleteLocalPart : Reader LocalPart := fun text =>
  match localItems text with
  | ([], _) | ([.gap], _) => .error (.problem .pastListEnd)
  | (items, behind) => .ok (.items items, behind)

def localPart : Reader LocalPart := fun text =>
  if text.isEmpty then .error (.problem .pastTextEnd)
  else
    let (before, inner) := gap text
    match (dotAtom? inner).or (core? inner) with
    | some (core, rest) =>
        let (after, behind) := gap rest
        if goesOn behind then
          obsoleteLocalPart (Word.shown ⟨before, core, after⟩ ++ behind)
        else .ok (.plain core, behind)
    | none =>
        if goesOn inner then obsoleteLocalPart (before ++ inner) else .error .mismatch

def isBracket (character : Char) : Bool :=
  character == '[' || character == ']'

def skipFold (text : List Symbol) : List Symbol :=
  if starts isFold text then text.dropWhile (·.fits isBlank) else text

/-- A domain in brackets, behind the first of them. There is none to read if the header ends in
it. -/
def literal : Reader (Option (List Symbol)) := fun text =>
  if text.isEmpty then .ok (none, [])
  else if (skipFold text).isEmpty then .error (.problem .blankLiteral)
  else
    let (inside, rest) := unescaped isBracket false (skipFold text)
    match skipFold rest with
    | [] => .ok (none, [])
    | .character ']' :: behind =>
        .ok (some (.character '[' :: inside ++ [.character ']']), skipGap behind)
    | _ => .error .mismatch

def domainPart? : List Symbol → Option (List Symbol × List Symbol)
  | .character '.' :: rest =>
      (wordOf? atom? rest).map fun (word, behind) => (word.core.meaning, behind)
  | _ => none

def domainParts : Reader (Option (List Symbol)) := fun text =>
  match (dotAtom? text).or (atom? text) with
  | none => .error .mismatch
  | some (core, rest) =>
      if starts (· == '@') (skipGap rest) then .error .mismatch
      else
        let (parts, behind) := many domainPart? (skipGap rest)
        if starts (· == '.') behind then .error .mismatch
        else
          let pieces := core.meaning :: parts
          .ok (some ([Symbol.character '.'].intercalate pieces), behind)

def domain : Reader (Option (List Symbol)) := fun text => do
  if text.isEmpty then throw (.problem .pastTextEnd)
  let (found, behind) ←
    match skipGap text with
    | .character '[' :: rest => literal rest
    | inner => domainParts inner
  return (found.map fun symbols => symbols.filter fun symbol => !symbol.fits isBlank, behind)

def spec : Reader Spec := fun text => do
  match ← localPart text with
  | (localPart, .character '@' :: rest) =>
      match ← domain rest with
      | (some domain, behind) => return (⟨localPart, domain⟩, behind)
      | (none, _) => throw (.problem .openLiteral)
  | (localPart, behind) => return (⟨localPart, []⟩, behind)

def skipList? : List Symbol → Option (Unit × List Symbol)
  | .character ',' :: rest => some ((), rest)
  | text => if starts (fun character => isFold character || character == '(') text then
      some ((), skipGap text) else none

def routePart (text : List Symbol) : Except Trouble (Option (Unit × List Symbol)) := do
  match text with
  | [] | [.character ','] => return none
  | .character ',' :: rest =>
      match skipGap rest with
      | [] => throw (.problem .pastTextEnd)
      | .character '@' :: inner => return some ((), (← domain inner).2)
      | other => return some ((), other)
  | _ => return none

def route : Reader Unit := fun text => do
  match (many skipList? text).2 with
  | .character '@' :: rest =>
      match ← manyM routePart (← domain rest).2 with
      | (_, .character ':' :: behind) => return ((), behind)
      | _ => throw .mismatch
  | _ => throw .mismatch

def routedSpec : Reader Spec := fun text => do
  spec (← route text).2

/-- An address in angle brackets, of which the second one may be missing. There may be nothing
between them. -/
def angle : Reader (Option Spec) := fun text =>
  match text with
  | [.character '<'] => .error (.problem .pastTextEnd)
  | .character '<' :: .character '>' :: behind => .ok (none, behind)
  | .character '<' :: rest => do
      match ← orElse spec routedSpec rest with
      | (spec, .character '>' :: behind) => return (some spec, skipGap behind)
      | (spec, behind) => return (some spec, skipGap behind)
  | _ => .error .mismatch

def namedMailbox : Reader Mailbox := fun text => do
  let (before, inner) := gap text
  if starts (· == '<') inner then
    let (spec, behind) ← angle inner
    return (⟨[], spec⟩, behind)
  else if inner.isEmpty || starts endsPhrase inner then throw .mismatch
  else
    let (name, rest) := phrase inner
    if rest.isEmpty then throw .mismatch
    if !before.isEmpty && starts (· == '.') inner then throw (.problem .firstPoint)
    let (spec, behind) ← angle rest
    return (⟨name, spec⟩, behind)

def bareMailbox : Reader Mailbox := fun text => do
  let (spec, behind) ← spec text
  return (⟨[], some spec⟩, behind)

def mailbox : Reader Mailbox :=
  orElse namedMailbox bareMailbox

/-- What is passed of a text that is no mailbox: a mark, or a phrase with its gaps, quoted texts and
encoded words. -/
def passed? (isEnd : Char → Bool) (text : List Symbol) : Option (Unit × List Symbol) :=
  if text.isEmpty || starts isEnd text then none
  else if starts endsPhrase text then some ((), text.tail)
  else some ((), (phrase text).2)

def skipTo (isEnd : Char → Bool) (text : List Symbol) : List Symbol :=
  (many (passed? isEnd) text).2

/-- An element of a list with commas between its elements, up to the one behind it. Where no reader
takes what is there, it is passed, but a gap alone is no element. -/
def element {α : Type} (isEnd : Char → Bool) (read : Reader α) (unreadable : α) (withMore : α → α)
    (text : List Symbol) : Except Problem (Option α × List Symbol) := do
  let (found, rest) ←
    match read text with
    | .ok (found, behind) =>
        if behind.isEmpty || starts isEnd behind then pure (some found, behind)
        else pure (some (withMore found), skipTo isEnd behind)
    | .error .mismatch =>
        let inner := skipGap text
        if inner.isEmpty || starts isEnd inner then pure (none, inner)
        else pure (some unreadable, skipTo isEnd inner)
    | .error (.problem problem) => throw problem
  return (found, if starts (· == ',') rest then rest.tail else rest)

def memberOrEnd (text : List Symbol) : Except Problem (Option (Option Mailbox × List Symbol)) := do
  if text.isEmpty || starts (· == ';') text then return none
  return some (← element (fun character => character == ',' || character == ';') mailbox
    .unreadable id text)

def members (text : List Symbol) : Except Problem (List Mailbox × List Symbol) := do
  let (found, behind) ← manyM memberOrEnd text
  return (found.filterMap id, behind)

def group : Reader Entry := fun text => do
  match phrase text with
  | (name, .character ':' :: .character ';' :: behind) => return (.group name [], behind)
  | (name, .character ':' :: rest) =>
      let (members, behind) ← (members (skipGap rest)).mapError .problem
      return (.group name members, skipGap behind.tail)
  | _ => throw .mismatch

def Entry.withMore : Entry → Entry
  | .group name _ => .groupAsMailbox name
  | other => other

def singleMailbox : Reader Entry := fun text => do
  let (mailbox, behind) ← mailbox text
  return (.mailbox mailbox, behind)

def entryOrEnd (text : List Symbol) : Except Problem (Option (Option Entry × List Symbol)) := do
  if text.isEmpty then return none
  return some (← element (· == ',') (orElse group singleMailbox) (.mailbox .unreadable)
    Entry.withMore text)

def entries (text : List Symbol) : Except Problem (List Entry) := do
  let (found, _) ← manyM entryOrEnd text
  return found.filterMap id

end Warden.AddressHeader
