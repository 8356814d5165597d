import Warden.Text.Quoted
import Warden.Text.Utf8

/-!
Symbols: what the bytes of a text in some character set stand for. Most of them are characters. A
byte without a meaning stays as it is, to be read as UTF-8 together with what stands around it. A
set of 16-bit units can also give one half of a surrogate pair, which no text can hold.
-/

namespace Warden.Text

inductive Symbol
  | character (value : Char)
  | raw (byte : UInt8)
  | half (unit : Nat)
  deriving DecidableEq, Repr

/-- Halves of surrogate pairs that stand side by side, with the place of the first one and of the
last one in the text. -/
structure HalvesRun where
  unit : Nat
  first : Nat
  last : Nat
  deriving DecidableEq, Repr

def HalvesRun.message (run : HalvesRun) : String :=
  let start := "'utf-8' codec can't encode character"
  let ending := ": surrogates not allowed"
  if run.first = run.last then
    start ++ " '\\u" ++ String.ofList (hexDigits 4 run.unit) ++ "' in position " ++
      toString run.first ++ ending
  else start ++ "s in position " ++ toString run.first ++ "-" ++ toString run.last ++ ending

namespace Symbol

def ofCode (code : Nat) : Symbol :=
  if 0xDC80 ≤ code && code ≤ 0xDCFF then .raw (UInt8.ofNat (code - 0xDC00))
  else if 0xD800 ≤ code && code ≤ 0xDFFF then .half code
  else .character (Char.ofNat code)

def character? : Symbol → Option Char
  | .character value => some value
  | _ => none

def isCharacter (symbol : Symbol) : Bool :=
  symbol.character?.isSome

def fits (kind : Char → Bool) (symbol : Symbol) : Bool :=
  symbol.character?.any kind

/-- The first halves in a text. Raw bytes behind them, which have codes of their kind, belong to the
same run. -/
def halves? (place : Nat) : List Symbol → Option HalvesRun
  | [] => none
  | .half unit :: rest =>
      some ⟨unit, place, place + (rest.takeWhile fun symbol => !symbol.isCharacter).length⟩
  | _ :: rest => halves? (place + 1) rest

def utf8 : Symbol → List UInt8
  | .character value => String.utf8EncodeChar value
  | .raw byte => [byte]
  | .half _ => []

def text (symbols : List Symbol) : Except HalvesRun String :=
  match halves? 0 symbols with
  | some run => .error run
  | none => .ok (Utf8.decodeReplacing (symbols.flatMap utf8))

end Symbol

end Warden.Text
