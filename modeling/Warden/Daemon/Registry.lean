import Warden.Daemon.Names
import Warden.Daemon.Restart

/-!
The registry of daemon implementations. Names may repeat in it; the first entry of a name is the one
that counts, even if it cannot be loaded.
-/

namespace Warden.Daemon

structure Service where
  number : Int := 0
  script : List Act := []

structure Entry where
  name : String
  loading : Except Fault Service

inductive Missing
  | unregistered (name : String)
  | broken (name : String) (fault : Fault)

def Missing.message : Missing → String
  | .unregistered name => "no implementation is registered for daemon " ++ name
  | .broken name fault => "failed to load daemon " ++ name ++ ": " ++ fault.message

inductive LoadProblem
  | missing (cause : Missing)
  | interrupt (cause : Fault)

def entryGroup : String := "launchguard.daemons"

def registeredNames (entries : List Entry) : List String :=
  (entries.map Entry.name).eraseDups.mergeSort fun left right => decide (left ≤ right)

def load (entries : List Entry) (name : String) : Except LoadProblem Service :=
  match entries.find? fun entry => entry.name == name with
  | none => .error (.missing (.unregistered name))
  | some entry => entry.loading.mapError fun fault =>
      if fault.isOrdinary then .missing (.broken name fault) else .interrupt fault

end Warden.Daemon
