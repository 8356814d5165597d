import Warden.Text.Blank

/-!
Switch values: the words for on and off, in any case and with blanks around them.
-/

namespace Warden.Switch

def onWords : List String := ["1", "t", "true", "yes", "y", "on"]

def offWords : List String := ["0", "f", "false", "no", "n", "off"]

def read? (text : String) : Option Bool :=
  let word := Text.lowered (Text.strip text)
  if onWords.contains word then some true
  else if offWords.contains word then some false
  else none

end Warden.Switch
