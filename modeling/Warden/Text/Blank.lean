/-!
Blank characters and the trimming of texts. The blanks are those of the bidirectional classes B, S
and WS and of the space separators; a numeral admits fewer of them around its digits.
-/

namespace Warden.Text

def isBlank (character : Char) : Bool :=
  let code := character.toNat
  (9 ≤ code && code ≤ 13) || (0x1C ≤ code && code ≤ 0x20) || code == 0x85 || code == 0xA0 ||
    code == 0x1680 || (0x2000 ≤ code && code ≤ 0x200A) || code == 0x2028 || code == 0x2029 ||
    code == 0x202F || code == 0x205F || code == 0x3000

/-- A blank that may stand around a numeral: the four information separators may not. -/
def isNumeralBlank (character : Char) : Bool :=
  isBlank character && !(0x1C ≤ character.toNat && character.toNat ≤ 0x1F)

def trim (dropped : Char → Bool) (characters : List Char) : List Char :=
  ((characters.dropWhile dropped).reverse.dropWhile dropped).reverse

def strip (text : String) : String :=
  String.ofList (trim isBlank text.toList)

def commaPieces (text : String) : List String :=
  (text.toList.splitOn ',').map String.ofList

/-- A text with its basic letters in lower case. The words it is compared with hold no letter that
a capital of another alphabet maps to, so other letters may stay as they are. -/
def lowered (text : String) : String :=
  String.ofList (text.toList.map Char.toLower)

end Warden.Text
