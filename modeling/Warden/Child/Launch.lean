import Warden.ByteLog
import Warden.Secret

/-!
Launching a main program and handing it the secret. A program that cannot be handed its secret is
killed and awaited before the failure is reported, so no half-started one stays behind.
-/

namespace Warden

structure Child where
  pid : Int
  runtime : Number := .whole 0
  status : Int := 1
  output : Stream := {}
  errors : Stream := {}
  writeFault : Option Fault := none
  closeFault : Option Fault := none

inductive Launch
  | refused (fault : Fault)
  | started (child : Child)

namespace Launch

/-- Why no main program came to run. The last case is a fault that nobody here handles. -/
inductive Problem
  | notStarted (cause : Fault)
  | noHandOver (cause : Fault)
  | unhandled (cause : Fault)

def Problem.message : Problem → String
  | .notStarted cause => "failed to start main program: " ++ cause.message
  | .noHandOver cause => "failed to write secret to main program: " ++ cause.message
  | .unhandled cause => cause.message

def attempt (event : Event) (fault : Option Fault) : Run Fault Unit :=
  ⟨[event], match fault with | none => .ok () | some fault => .error fault⟩

def handOver (child : Child) (secret : String) : Run Fault Unit := do
  attempt (.handOver (Secret.handOver secret)) child.writeFault
  attempt .closeInput child.closeFault

def ready (child : Child) : Event :=
  .log .info s!"Started main program with PID {child.pid}"

def givenUp (child : Child) : Event :=
  .log .warning s!"Failed to hand secret to main program (PID {child.pid}), killing it"

def settle (child : Child) (handedOver : Run Fault Unit) : Run Problem Child :=
  match handedOver.result with
  | .ok _ => ⟨handedOver.events ++ [ready child], .ok child⟩
  | .error fault =>
      if fault.isSystem then
        ⟨handedOver.events ++ [givenUp child, .kill, .awaitExit], .error (.noHandOver fault)⟩
      else ⟨handedOver.events, .error (.unhandled fault)⟩

def perform (launch : Launch) (command : List String) (secret : String) : Run Problem Child :=
  match launch with
  | .refused fault =>
      ⟨[.launch command],
        .error (if fault.isStream then .notStarted fault else .unhandled fault)⟩
  | .started child => do
      Run.emit (.launch command)
      settle child (handOver child secret)

/-- The byte logs of output and errors after everything that the child wrote. Both streams are copied
however the hand-over ends, and what goes wrong in copying stays unnoticed. -/
def copyStreams (launch : Launch) (output errors : ByteLog) : ByteLog × ByteLog :=
  match launch with
  | .refused _ => (output, errors)
  | .started child => ((output.pump child.output).1, (errors.pump child.errors).1)

end Launch

end Warden
