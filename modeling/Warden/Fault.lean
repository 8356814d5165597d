/-!
Faults that the surroundings raise. Each step of the program handles some kinds and lets the others
through; an interrupt is handled nowhere.
-/

namespace Warden

inductive FaultKind
  | system
  | brokenPipe
  | mailServer
  | badValue
  | runtime
  | missingAttribute
  | connection
  | timeout
  | badUrl
  | figures
  | overflow
  | interrupt
  deriving DecidableEq, Repr

structure Fault where
  kind : FaultKind
  message : String
  deriving DecidableEq, Repr

namespace Fault

def isSystem (fault : Fault) : Bool :=
  fault.kind == .system || fault.kind == .brokenPipe || fault.kind == .mailServer

/-- A fault of a stream: of input or output, or of a stream that is already closed. -/
def isStream (fault : Fault) : Bool :=
  fault.isSystem || fault.kind == .badValue

def isFigure (fault : Fault) : Bool :=
  fault.isSystem || fault.kind == .figures || fault.kind == .missingAttribute

def isLookup (fault : Fault) : Bool :=
  fault.kind == .connection || fault.kind == .timeout || fault.kind == .badUrl

def isOrdinary (fault : Fault) : Bool :=
  fault.kind != .interrupt

end Fault

end Warden
