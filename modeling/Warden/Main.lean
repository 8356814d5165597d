import Warden.Launcher

/-!
The command line. Settings, tokens and secret come from where they really are, and log records go to
standard error. No program is started, no server asked and no daemon registered from here: each
such request is answered with a fault.
-/

namespace Warden.Console

def unavailable (what : String) : Fault :=
  ⟨.system, what ++ " is not available from this console"⟩

def host : Host :=
  { name := "localhost"
    executable := some "warden"
    lookup := .error ⟨.connection, "offline"⟩
    mailFailure := some (.connect, unavailable "mail")
    process := none
    memory := .error (unavailable "memory")
    load := .error (unavailable "load")
    bootTime := .error (unavailable "boot time")
    startTime := .error (unavailable "start time")
    residentBytes := .error (unavailable "resident memory")
    processors := .ok none
    fallbackCount := none
    threads := 1 }

def readSettings : IO (Except Settings.Problem Settings) := do
  let found ← Settings.variableNames.mapM fun name => return (name, ← IO.getEnv name)
  return Settings.read fun name => (found.lookup name).join

def needsInput (settings : Settings) (tokens : List String) : Bool :=
  match CommandLine.read tokens with
  | .error _ => false
  | .ok options =>
      !options.daemons.isEmpty && (settings.secret.isEmpty || !options.supervisor)

def surroundings (line : String) (isTerminal : Bool) : Surroundings :=
  { host
    now := .whole 0
    launches := [.refused ⟨.interrupt, "starting a program is not available from this console"⟩]
    entries := []
    input := line.toList
    isTerminal
    typed := (Secret.ofText line.toList).1 }

def printEvent (threshold : Threshold) : Event → IO Unit
  | .log level message =>
      if threshold.admits level then IO.eprintln (level.name ++ " - " ++ message) else pure ()
  | _ => pure ()

def finish : Launcher.Ending → IO UInt32
  | .refused exit => do
      IO.print exit.output
      IO.eprint exit.errors
      return UInt32.ofNat exit.code
  | .returned code => return UInt32.ofNat code
  | .broken failure => do
      IO.eprintln failure.message
      return 1

def run (settings : Settings) (tokens : List String) : IO UInt32 := do
  let input ← IO.getStdin
  let isTerminal ← input.isTty
  let reading := needsInput settings tokens
  if reading && isTerminal then IO.eprint Launcher.secretPrompt
  let line ← if reading then input.getLine else pure ""
  let outcome := Launcher.run settings (surroundings line isTerminal) tokens
  for event in outcome.events do printEvent settings.logThreshold event
  finish outcome.ending

end Warden.Console

def main (tokens : List String) : IO UInt32 := do
  match ← Warden.Console.readSettings with
  | .error problem =>
      IO.eprintln problem.message
      return 1
  | .ok settings => Warden.Console.run settings tokens
