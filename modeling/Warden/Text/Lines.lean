/-!
Lines of a text. Which characters end a line depends on the reader; a carriage return with a line
feed after it is one line end for all of them.
-/

namespace Warden.Text

/-- The lines of the rest of a text, given the current line backwards. A line end closes its line,
so no empty line follows the last one. -/
def linesFrom (ends : Char → Bool) (current : List Char) : List Char → List (List Char)
  | [] => if current.isEmpty then [] else [current.reverse]
  | '\r' :: '\n' :: rest => current.reverse :: linesFrom ends [] rest
  | character :: rest =>
      if ends character then current.reverse :: linesFrom ends [] rest
      else linesFrom ends (character :: current) rest

def isMailLineEnd (character : Char) : Bool :=
  character == '\n' || character == '\r'

/-- The line ends of running text: the mail ones, the vertical tab, the form feed, three of the
information separators, the next-line control and the two Unicode separators. -/
def isTextLineEnd (character : Char) : Bool :=
  let code := character.toNat
  (0x0A ≤ code && code ≤ 0x0D) || (0x1C ≤ code && code ≤ 0x1E) || code == 0x85 ||
    code == 0x2028 || code == 0x2029

def isMultiline (text : String) : Bool :=
  1 < (linesFrom isTextLineEnd [] text.toList).length

def mailBody (text : String) : String :=
  match linesFrom isMailLineEnd [] text.toList with
  | [] => "\n"
  | lines => String.ofList (lines.flatMap fun line => line ++ ['\n'])

end Warden.Text
