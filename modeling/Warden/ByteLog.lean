import Warden.Run
import Warden.Text.Utf8

/-!
Byte logs: each byte written goes on to a destination, and the latest ones are retained, up to a
capacity. Trouble with the destination changes nothing about what is retained.
-/

namespace Warden

inductive ForwardStage
  | write
  | flush
  deriving DecidableEq, Repr

structure Destination where
  held : List UInt8 := []
  failure : Option (ForwardStage × Fault) := none

/-- A stream of the main program: its chunks, the fault of the read after them, and the fault of
closing it. An empty chunk ends it early. -/
structure Stream where
  chunks : List (List UInt8) := []
  readFault : Option Fault := none
  closeFault : Option Fault := none

structure ByteLog where
  capacity : Nat
  retained : List UInt8 := []
  destination : Option Destination := none
  positive : 0 < capacity

namespace Destination

def healthy : Destination := {}

def take (destination : Destination) (bytes : List UInt8) : Destination × Option Fault :=
  match destination.failure with
  | none => ({ destination with held := destination.held ++ bytes }, none)
  | some (.write, fault) => (destination, some fault)
  | some (.flush, fault) => ({ destination with held := destination.held ++ bytes }, some fault)

end Destination

namespace ByteLog

def capacityMessage : String := "capacity must be positive"

def make? (capacity : Int) (destination : Option Destination) : Option ByteLog :=
  if positive : 0 < capacity.toNat then some { capacity := capacity.toNat, destination, positive }
  else none

def lastBytes (count : Nat) (bytes : List UInt8) : List UInt8 :=
  bytes.drop (bytes.length - count)

def retain (log : ByteLog) (bytes : List UInt8) : ByteLog :=
  if log.capacity ≤ bytes.length then { log with retained := lastBytes log.capacity bytes }
  else { log with retained := lastBytes log.capacity (log.retained ++ bytes) }

theorem length_lastBytes (count : Nat) (bytes : List UInt8) :
    (lastBytes count bytes).length = min count bytes.length := by
  simp only [lastBytes, List.length_drop]
  omega

theorem lastBytes_append (count : Nat) (front back : List UInt8) (enough : count ≤ back.length) :
    lastBytes count (front ++ back) = lastBytes count back := by
  have split : front.length + back.length - count = front.length + (back.length - count) := by
    omega
  rw [lastBytes, lastBytes, List.length_append, split, List.drop_append]
  simp

theorem retained_retain (log : ByteLog) (bytes : List UInt8) :
    (log.retain bytes).retained = lastBytes log.capacity (log.retained ++ bytes) := by
  unfold retain
  split
  next fills => exact (lastBytes_append log.capacity log.retained bytes fills).symm
  next _ => rfl

def forward (log : ByteLog) (bytes : List UInt8) : ByteLog × Option Fault :=
  match log.destination with
  | none => (log, none)
  | some destination =>
      let (taken, fault?) := destination.take bytes
      ({ log with destination := some taken }, fault?)

/-- Writes bytes. A stream fault of the destination is only logged, any other one ends the write
before anything is retained. -/
def write (log : ByteLog) (bytes : List UInt8) : ByteLog × Run Fault Nat :=
  match log.forward bytes with
  | (forwarded, none) => (forwarded.retain bytes, ⟨[], .ok bytes.length⟩)
  | (forwarded, some fault) =>
      if fault.isStream then
        (forwarded.retain bytes,
          ⟨[.log .debug ("Failed to forward program output: " ++ fault.message)],
            .ok bytes.length⟩)
      else (forwarded, ⟨[], .error fault⟩)

def forwarded (log : ByteLog) : Option (List UInt8) :=
  log.destination.map Destination.held

def text (log : ByteLog) : String :=
  Text.Utf8.decodeReplacing log.retained

def copy (log : ByteLog) (readFault : Option Fault) :
    List (List UInt8) → ByteLog × Run Fault Unit
  | [] => (log, ⟨[], match readFault with | none => .ok () | some fault => .error fault⟩)
  | chunk :: rest =>
      if chunk.isEmpty then (log, ⟨[], .ok ()⟩)
      else match log.write chunk with
        | (written, ⟨events, .error fault⟩) => (written, ⟨events, .error fault⟩)
        | (written, ⟨events, .ok _⟩) =>
            let (last, run) := copy written readFault rest
            (last, ⟨events ++ run.events, run.result⟩)

/-- Copies a stream to its end and closes it. A stream fault on the way is only logged, and a fault
of input or output on closing is passed over. -/
def pump (log : ByteLog) (stream : Stream) : ByteLog × Run Fault Unit :=
  let (copied, run) := log.copy stream.readFault stream.chunks
  let settled : Run Fault Unit := match run.result with
    | .ok _ => run
    | .error fault =>
        if fault.isStream then
          ⟨run.events ++ [.log .debug ("Stopped reading program output: " ++ fault.message)], .ok ()⟩
        else run
  let result := match stream.closeFault with
    | none => settled.result
    | some fault => if fault.isSystem then settled.result else .error fault
  (copied, ⟨settled.events ++ [.closeStream], result⟩)

end ByteLog

end Warden
