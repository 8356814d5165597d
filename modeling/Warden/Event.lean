import Warden.Number

/-!
Events: what the program does to its surroundings, in the order in which it does it.
-/

namespace Warden

inductive Level
  | debug
  | info
  | warning
  | error
  | critical
  deriving DecidableEq, Repr

def Level.name : Level → String
  | .debug => "DEBUG"
  | .info => "INFO"
  | .warning => "WARNING"
  | .error => "ERROR"
  | .critical => "CRITICAL"

def Level.severity : Level → Nat
  | .debug => 10
  | .info => 20
  | .warning => 30
  | .error => 40
  | .critical => 50

/-- What the name of a log level stands for: a severity, or a format of records. A format is no
threshold that a severity can be compared with. -/
inductive Threshold
  | severity (number : Nat)
  | format (text : String)
  deriving DecidableEq, Repr

def Threshold.admits (level : Level) : Threshold → Bool
  | .severity number => number ≤ level.severity
  | .format _ => true

structure Mail where
  subject : String
  sender : String
  recipients : String
  body : String
  deriving DecidableEq, Repr

inductive MailStep
  | connect (host : Option String) (port timeout : Option Number)
  | startTls
  | login (username : String) (password : Option String)
  | send (mail : Mail)
  | quit

structure DaemonContext where
  name : String
  config : Option String
  secret : Option String
  maxWorkers : Option Int
  deriving DecidableEq, Repr

inductive Event
  | log (level : Level) (message : String)
  | launch (command : List String)
  | handOver (bytes : List UInt8)
  | closeInput
  | kill
  | awaitExit
  | closeStream
  | sleep (seconds : Number)
  | lookUp (url : String)
  | mail (step : MailStep)
  | call (context : DaemonContext) (stopping : Bool)
  | askSecret (prompt : String)
  | readInput
  | openLog (path : String) (maxBytes backups : Int)
  | startLogging (threshold : Threshold) (format : String)

def Event.isDebug : Event → Bool
  | .log .debug _ => true
  | _ => false

end Warden
