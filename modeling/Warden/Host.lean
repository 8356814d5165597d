import Warden.Fault
import Warden.Number

/-!
The host: what the machine and the services around the program answer when they are asked. Each
answer is a value or the fault that stands in its place.
-/

namespace Warden

inductive MailStage
  | connect
  | startTls
  | login
  | send
  deriving DecidableEq, Repr

structure Memory where
  total : Int
  used : Int
  deriving DecidableEq, Repr

structure Reply where
  status : Int
  text : String
  deriving DecidableEq, Repr

structure Host where
  name : String
  executable : Option String
  lookup : Except Fault Reply
  mailFailure : Option (MailStage × Fault)
  /-- The fault of asking about this process at all. -/
  process : Option Fault
  memory : Except Fault (Option Memory)
  load : Except Fault (List Number)
  bootTime : Except Fault Number
  startTime : Except Fault Number
  residentBytes : Except Fault Int
  processors : Except Fault (Option Int)
  /-- The count of processors that stands in where the first one is not known. -/
  fallbackCount : Option Int
  threads : Int

namespace Host

def noExecutableMessage : String := "cannot determine the path of the Python interpreter"

def command? (host : Host) : Option (List String) :=
  match host.executable with
  | none => none
  | some path => if path.isEmpty then none else some [path, "-m", "launchguard"]

end Host

end Warden
