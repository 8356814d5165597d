import Warden.Text.Utf8

/-!
The program secret on its way to the main program: one line of a stream, from which all line-end
characters at its end are cut.
-/

namespace Warden.Secret

def cutLine {α : Type} (isFeed : α → Bool) (stream : List α) : List α × List α :=
  (stream.takeWhile (!isFeed ·), (stream.dropWhile (!isFeed ·)).drop 1)

def isLineEnd (character : Char) : Bool :=
  character == '\r' || character == '\n'

def trimEnd (line : List Char) : String :=
  String.ofList (line.reverse.dropWhile isLineEnd).reverse

def ofText (stream : List Char) : String × List Char :=
  let (line, rest) := cutLine (· == '\n') stream
  (trimEnd line, rest)

def ofBytes (stream : List UInt8) : Option String × List UInt8 :=
  let (line, rest) := cutLine (· == 0x0A) stream
  ((Text.Utf8.decode? line).map fun text => trimEnd text.toList, rest)

def handOver (secret : String) : List UInt8 :=
  Text.Utf8.encode secret ++ [0x0A]

end Warden.Secret
