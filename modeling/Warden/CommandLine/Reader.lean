import Warden.Switch
import Warden.CommandLine.Token
import Warden.Daemon.Names
import Warden.Numeral

/-!
Reading the command line from left to right. A setting takes the value joined to it or else the next
token, if that is a value; the supervisor switch may go without. What nobody takes is collected, and
refused at the end. A value is read when it is met, so its refusal comes before that one. A bare
separator makes itself and everything after it leftovers.
-/

namespace Warden.CommandLine

inductive Refusal
  | missingValue (setting : Setting)
  | notASwitch (text : String)
  | notWhole (text : String)
  | helpWithValue (text : String)
  | leftovers (tokens : List String)

inductive Stop
  | help
  | refused (refusal : Refusal)
  | noDaemonList

structure Reading where
  config : Option String := some ""
  supervisor : Bool := true
  daemons : Option String := some ""
  maxWorkers : Option Int := some 0
  leftovers : List String := []

structure Options where
  config : Option String
  supervisor : Bool
  daemons : List String
  maxWorkers : Option Int

def separator : String := "--"

def Reading.assign (reading : Reading) (setting : Setting) (value : Option String) :
    Except Stop Reading :=
  match setting, value with
  | .config, _ => .ok { reading with config := value }
  | .daemons, _ => .ok { reading with daemons := value }
  | .supervisor, none => .ok { reading with supervisor := true }
  | .supervisor, some text =>
      match Switch.read? text with
      | some supervisor => .ok { reading with supervisor }
      | none => .error (.refused (.notASwitch text))
  | .maxWorkers, none => .ok { reading with maxWorkers := none }
  | .maxWorkers, some text =>
      match Numeral.readWhole text with
      | .ok count => .ok { reading with maxWorkers := some count }
      | .error _ => .error (.refused (.notWhole text))

def Reading.leave (reading : Reading) (tokens : List String) : Reading :=
  { reading with leftovers := reading.leftovers ++ tokens }

/-- The value that a joined text gives. The bare separator stands for none, as in the older patch
releases of the option parser; the newer ones take it as it is. -/
def joinedValue (text : String) : Option String :=
  if text == separator then none else some text

/-- The answer to a help flag with something attached: more of the same letter is more of the same
flag, and anything else is refused. This is how the older patch releases of the option parser have
it; the newer ones print the help as soon as they come to the first letter. -/
def attachedHelp (attached : List Char) : Stop :=
  match attached with
  | 'h' :: [] => .help
  | 'h' :: more => attachedHelp more
  | _ => .refused (.helpWithValue (String.ofList attached))

def helpStop (long : Bool) : Option String → Stop
  | none => .help
  | some text =>
      if long then .refused (.helpWithValue text) else attachedHelp text.toList

def isValue (token : String) : Bool :=
  token != separator && classify token == .value

def Reading.settle (reading : Reading) : Option Setting → Except Stop Reading
  | none => .ok reading
  | some .supervisor => reading.assign .supervisor none
  | some setting => .error (.refused (.missingValue setting))

def readFrom (reading : Reading) (waiting : Option Setting) : List String → Except Stop Reading
  | [] => reading.settle waiting
  | token :: rest =>
      match waiting, isValue token with
      | some setting, true =>
          match reading.assign setting (some token) with
          | .ok next => readFrom next none rest
          | .error stop => .error stop
      | _, _ =>
          match reading.settle waiting with
          | .error stop => .error stop
          | .ok settled =>
              if token == separator then .ok (settled.leave (token :: rest))
              else match classify token with
                | .value | .unknown => readFrom (settled.leave [token]) none rest
                | .help long joined => .error (helpStop long joined)
                | .setting setting none => readFrom settled (some setting) rest
                | .setting setting (some text) =>
                    match settled.assign setting (joinedValue text) with
                    | .ok next => readFrom next none rest
                    | .error stop => .error stop

def Reading.finish (reading : Reading) : Except Stop Options :=
  if !reading.leftovers.isEmpty then .error (.refused (.leftovers reading.leftovers))
  else match reading.daemons with
    | none => .error .noDaemonList
    | some text =>
        .ok ⟨reading.config, reading.supervisor, Daemon.splitNames text, reading.maxWorkers⟩

def read (tokens : List String) : Except Stop Options :=
  readFrom {} none tokens >>= Reading.finish

end Warden.CommandLine
