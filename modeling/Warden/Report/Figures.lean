import Warden.Binary64.Shortest
import Warden.Clock
import Warden.Host
import Warden.Run

/-!
Figures about the host and this process. Each is collected on its own, so a fault of one of them
leaves that one unknown and the others as they are.
-/

namespace Warden

structure Figures where
  clock : String
  systemUptime : Option String
  processUptime : Option String
  totalMemory : Option Int
  usedMemory : Option Int
  processMemory : Option Int
  load : Option String
  processors : Option Int
  threads : Int
  deriving DecidableEq, Repr

namespace Figures

inductive Problem
  | fault (fault : Fault)
  | clock (problem : Clock.Problem)
  | uptime (problem : Duration.Problem)
  | outOfRange

def Problem.message : Problem → String
  | .fault cause => cause.message
  | .clock problem => problem.message
  | .uptime problem => problem.message
  | .outOfRange => Number.outOfRangeMessage

def ifAvailable {α : Type} (name : String) (answer : Except Fault α) : Run Problem (Option α) :=
  match answer with
  | .ok value => pure (some value)
  | .error fault =>
      if fault.isFigure then
        ⟨[.log .debug (s!"Metric {name} is unavailable: " ++ fault.message)], .ok none⟩
      else .fail (.fault fault)

def uptime (now : Number) : Option Number → Run Problem (Option String)
  | none => pure none
  | some start =>
      match now.sub? start with
      | some seconds => .ofExcept (((Duration.ofNumber seconds).map some).mapError .uptime)
      | none => .fail .outOfRange

def megabytes (bytes : Int) : Int :=
  bytes / 1024 / 1024

def loadText : Option (List Number) → Run Problem (Option String)
  | none | some [] => pure none
  | some loads =>
      match loads.mapM Number.toBinary? with
      | some values => pure (some (" ".intercalate (values.map Binary64.textTwoPlaces)))
      | none => .fail .outOfRange

/-- The first count that is known and not zero, or else the second one. -/
def firstCount (counted fallback : Option Int) : Option Int :=
  match counted with
  | some count => if count = 0 then fallback else some count
  | none => fallback

def collect (host : Host) (now : Number) : Run Problem Figures := do
  match host.process with
  | some fault => Run.fail (.fault fault)
  | none => pure ()
  let memory ← ifAvailable "memory" host.memory
  let loads ← ifAvailable "load" host.load
  let clock ← Run.ofExcept ((Clock.ofNumber now).mapError .clock)
  let systemUptime ← ifAvailable "system_uptime" host.bootTime >>= uptime now
  let processUptime ← ifAvailable "process_uptime" host.startTime >>= uptime now
  let processMemory ← ifAvailable "process_memory" host.residentBytes
  let load ← loadText loads
  let processors ← Run.ofExcept (host.processors.mapError .fault)
  return {
    clock, systemUptime, processUptime, load
    totalMemory := memory.join.map fun memory => megabytes memory.total
    usedMemory := memory.join.map fun memory => megabytes memory.used
    processMemory := processMemory.map megabytes
    processors := firstCount processors host.fallbackCount
    threads := host.threads }

end Figures

end Warden
