import Warden.Run

/-!
Restarts of a failing daemon. The delay before a restart grows with each failure, up to a limit, and
a requested stop ends the restarts.
-/

namespace Warden.Daemon

/-- What a daemon does when it is called: it may request the stop, and it returns or fails. -/
structure Act where
  stops : Bool := false
  fault : Option Fault := none

def delayStep : Int := 10

def longestDelay : Int := 60

def restartDelay (failures : Int) : Int :=
  min (delayStep * (failures - 1)) longestDelay

structure Ending where
  stopping : Bool
  interrupt : Option Fault := none

def pause (delay : Int) : List Event :=
  if delay = 0 then [] else [.sleep (.whole delay)]

def stopped (name : String) : Event :=
  .log .info ("Daemon " ++ name ++ " has stopped")

def failed (name : String) (fault : Fault) (delay : Int) : Event :=
  .log .warning ("Daemon " ++ name ++ " failed (" ++ fault.message ++ "), restarting in " ++
    s!"{delay} seconds")

def abandoned (name : String) : Event :=
  .log .warning ("Daemon " ++ name ++ " will not be restarted, stop was requested")

/-- Calls a daemon until it returns, with a delay after each failure. Once its script is over it
returns. Stop may be requested before a call, in it, or in the delay after so many failures. -/
def autoRestart (context : DaemonContext) (stopsDuring : Nat → Bool) (stopping : Bool)
    (failures : Nat) : List Act → List Event × Ending
  | [] => ([.call context stopping, stopped context.name], ⟨stopping, none⟩)
  | act :: rest =>
      let requested := stopping || act.stops
      match act.fault with
      | none => ([.call context stopping, stopped context.name], ⟨requested, none⟩)
      | some fault =>
          if fault.isOrdinary then
            let delay := restartDelay (failures + 1)
            let events :=
              .call context stopping :: failed context.name fault delay :: pause delay
            let late := requested || (delay != 0 && stopsDuring (failures + 1))
            if late then (events ++ [abandoned context.name], ⟨late, none⟩)
            else
              let (more, ending) := autoRestart context stopsDuring late (failures + 1) rest
              (events ++ more, ending)
          else ([.call context stopping], ⟨requested, some fault⟩)

end Warden.Daemon
