import Warden.CommandLine.Token
import Warden.Daemon.ShedLadder
import Warden.Flags
import Warden.Text.Quoted

/-!
Launch parameters of the main program for each attempt. Attempt 0 is a normal start, attempt 1 keeps
no flag but the configuration, and the attempts up to the number of daemons go down the shed ladder
as well. One attempt later all daemons are back, and after that all flags too, for good.
-/

namespace Warden

open CommandLine (Setting)

structure LaunchPlan where
  flags : List String
  daemons : List String
  ladder : List (List String)

namespace LaunchPlan

structure Parameters where
  flags : List String
  daemons : List String

def forSetting (setting : Setting) (token : String) : Bool :=
  Flags.names token setting.name

def make (flags daemons order : List String) : LaunchPlan :=
  ⟨Flags.remove (forSetting .daemons) flags, daemons, Daemon.shedLadder daemons order⟩

def ladderMessage (plan : LaunchPlan) : String :=
  "Daemon shed ladder: " ++ Text.bracketed (plan.ladder.map Text.quotedList)

def baseFlags (plan : LaunchPlan) : List String :=
  Flags.remove (forSetting .supervisor) plan.flags

def configFlags (plan : LaunchPlan) : List String :=
  Flags.remove (fun token => !forSetting .config token) plan.baseFlags

/-- A step of the ladder; below its end its last one, and all daemons if it has none. -/
def ladderStep (plan : LaunchPlan) (index : Nat) : List String :=
  (plan.ladder[min index (plan.ladder.length - 1)]?).getD plan.daemons

def daemonsAt (plan : LaunchPlan) (attempt : Nat) : List String :=
  if 2 ≤ attempt ∧ attempt ≤ plan.daemons.length then plan.ladderStep (attempt - 2)
  else plan.daemons

def flagsAt (plan : LaunchPlan) (attempt : Nat) : List String :=
  if 1 ≤ attempt ∧ attempt ≤ plan.daemons.length + 1 then plan.configFlags else plan.baseFlags

def resolve (plan : LaunchPlan) (attempt : Nat) : Parameters :=
  let daemons := plan.daemonsAt attempt
  ⟨plan.flagsAt attempt ++
    [Setting.supervisor.flag ++ "=false", Setting.daemons.flag, Daemon.joinNames daemons], daemons⟩

def negativeMessage (attempt : Int) : String :=
  s!"attempt must not be negative, got {attempt}"

/-- The parameters of an attempt that may be no attempt number at all. -/
def resolve? (plan : LaunchPlan) : Int → Option Parameters
  | .ofNat attempt => some (plan.resolve attempt)
  | .negSucc _ => none

end LaunchPlan

end Warden
