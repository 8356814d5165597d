/-!
Hexadecimal digits, in letters of either case.
-/

namespace Warden.Text

def hexValue? (character : Char) : Option Nat :=
  let code := character.toNat
  if character.isDigit then some (code - 0x30)
  else if 'a' ≤ character && character ≤ 'f' then some (code - 0x61 + 10)
  else if 'A' ≤ character && character ≤ 'F' then some (code - 0x41 + 10)
  else none

end Warden.Text
