import Warden.Text.Printable

/-!
Quoted texts as messages show them. The mark is a single quote unless the text holds one and holds
no double quote; the mark, the backslash and everything that is not printable are escaped.
-/

namespace Warden.Text

def quoteMark (characters : List Char) : Char :=
  if characters.contains '\x27' && !characters.contains '\x22' then '\x22' else '\x27'

def hexDigits (width number : Nat) : List Char :=
  let digits := Nat.toDigits 16 number
  List.replicate (width - digits.length) '0' ++ digits

def escaped (mark character : Char) : List Char :=
  if character == mark || character == '\\' then ['\\', character]
  else if character == '\n' then ['\\', 'n']
  else if character == '\r' then ['\\', 'r']
  else if character == '\t' then ['\\', 't']
  else if isPrintable character then [character]
  else
    let code := character.toNat
    if code < 0x100 then '\\' :: 'x' :: hexDigits 2 code
    else if code < 0x10000 then '\\' :: 'u' :: hexDigits 4 code
    else '\\' :: 'U' :: hexDigits 8 code

def quoted (text : String) : String :=
  let mark := quoteMark text.toList
  String.ofList (mark :: text.toList.flatMap (escaped mark) ++ [mark])

def bracketed (items : List String) : String :=
  "[" ++ ", ".intercalate items ++ "]"

def quotedList (texts : List String) : String :=
  bracketed (texts.map quoted)

end Warden.Text
