import Warden.Text.Symbol

/-!
Texts as sequences of bytes, one after the other. A character set says what the next sequence is;
this module reads a whole text with it. A wrong sequence that starts beyond the basic alphabet is
left as raw bytes, up to the first basic byte in it; one that starts with a basic byte makes the
whole text unreadable.
-/

namespace Warden.Text.CharacterSet

/-- The sequence at the start of a text: how many bytes belong to it beside the first one, and what
they stand for. A set may carry a state from each sequence to the next one. -/
inductive Sequence (State : Type)
  | symbols (found : List Symbol) (more : Nat) (next : State)
  | wrong (more : Nat)

def Sequence.character {State : Type} (value : Char) (more : Nat) (next : State) : Sequence State :=
  .symbols [.character value] more next

def Sequence.code {State : Type} (code more : Nat) (next : State) : Sequence State :=
  .symbols [Symbol.ofCode code] more next

def Sequence.ofPair {State : Type} (meaning : Option (List Char)) (next : State) : Sequence State :=
  match meaning with
  | some characters => .symbols (characters.map Symbol.character) 1 next
  | none => .wrong 0

def isBasic (byte : UInt8) : Bool :=
  byte < 0x80

/-- No reader keeps more raw bytes of one wrong sequence than these, the first one apart. -/
def mostRaw : Nat := 3

def readFrom {State : Type} (next : State → UInt8 → List UInt8 → Sequence State) (state : State) :
    List UInt8 → Option (List Symbol)
  | [] => some []
  | first :: rest =>
      match next state first rest with
      | .symbols found more after => (readFrom next after (rest.drop more)).map (found ++ ·)
      | .wrong more =>
          if isBasic first then none
          else
            let kept := (rest.take (min more mostRaw)).takeWhile fun byte => !isBasic byte
            (readFrom next state (rest.drop kept.length)).map fun symbols =>
              (first :: kept).map Symbol.raw ++ symbols
termination_by bytes => bytes.length
decreasing_by all_goals simp only [List.length_drop, List.length_cons]; omega

def readAll (next : UInt8 → List UInt8 → Sequence Unit) (bytes : List UInt8) :
    Option (List Symbol) :=
  readFrom (fun _ => next) () bytes

end Warden.Text.CharacterSet
