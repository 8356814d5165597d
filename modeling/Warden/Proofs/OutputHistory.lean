import Mathlib.Data.List.DropRight
import Warden.ByteLog

/-!
A byte log is the tail of its history: it retains the latest of all bytes that were written to it or
copied from streams, however they were cut into pieces. Its destination may fail in the meantime, as
long as it fails with stream faults.
-/

namespace Warden

def Stream.given (stream : Stream) : List UInt8 :=
  (stream.chunks.takeWhile fun chunk => !chunk.isEmpty).flatten

def Destination.Tolerable (destination : Destination) : Prop :=
  ∀ stage fault, destination.failure = some (stage, fault) → fault.isStream = true

structure Stream.Tolerable (stream : Stream) : Prop where
  reading : ∀ fault, stream.readFault = some fault → fault.isStream = true
  closing : ∀ fault, stream.closeFault = some fault → fault.isSystem = true

def Event.isClosing : Event → Bool
  | .closeStream => true
  | _ => false

namespace Destination

theorem held_take_of_healthy {destination : Destination} (healthy : destination.failure = none)
    (bytes : List UInt8) :
    (destination.take bytes).1 = { destination with held := destination.held ++ bytes } := by
  simp only [take, healthy]

theorem failure_take (destination : Destination) (bytes : List UInt8) :
    (destination.take bytes).1.failure = destination.failure := by
  unfold take
  split <;> rfl

theorem take_nil (destination : Destination) : (destination.take []).1 = destination := by
  unfold take
  split <;> simp

theorem take_append (destination : Destination) (front back : List UInt8) :
    ((destination.take front).1.take back).1 = (destination.take (front ++ back)).1 := by
  obtain ⟨held, failure⟩ := destination
  rcases failure with _ | ⟨stage, fault⟩
  · simp [take]
  · cases stage <;> simp [take]

theorem fault_take {destination : Destination} (tolerable : destination.Tolerable)
    (bytes : List UInt8) : ∀ fault ∈ (destination.take bytes).2, fault.isStream = true := by
  intro fault failed
  unfold take at failed
  split at failed
  next => cases failed
  next found => cases failed; exact tolerable _ _ found
  next found => cases failed; exact tolerable _ _ found

end Destination

namespace ByteLog

variable {log : ByteLog}

theorem lastBytes_eq_rtake (count : Nat) (bytes : List UInt8) :
    lastBytes count bytes = bytes.rtake count :=
  rfl

theorem lastBytes_eq_reverse (count : Nat) (bytes : List UInt8) :
    lastBytes count bytes = (bytes.reverse.take count).reverse :=
  List.rtake_eq_reverse_take_reverse bytes count

theorem lastBytes_lastBytes_append (count : Nat) (front back : List UInt8) :
    lastBytes count (lastBytes count front ++ back) = lastBytes count (front ++ back) := by
  simp only [lastBytes_eq_reverse, List.reverse_append, List.reverse_reverse, List.take_append,
    List.take_take]
  rw [Nat.min_eq_left (Nat.sub_le count _)]

def extend (log : ByteLog) (bytes : List UInt8) : ByteLog :=
  { log with
    retained := lastBytes log.capacity (log.retained ++ bytes)
    destination := log.destination.map fun destination => (destination.take bytes).1 }

def Tolerable (log : ByteLog) : Prop :=
  ∀ destination ∈ log.destination, destination.Tolerable

def Fits (log : ByteLog) : Prop :=
  log.retained.length ≤ log.capacity

theorem extend_extend (log : ByteLog) (front back : List UInt8) :
    (log.extend front).extend back = log.extend (front ++ back) := by
  simp only [extend, lastBytes_lastBytes_append, List.append_assoc, Option.map_map,
    Function.comp_def, Destination.take_append]

theorem extend_nil (fits : log.Fits) : log.extend [] = log := by
  have whole : lastBytes log.capacity log.retained = log.retained := by
    rw [lastBytes, Nat.sub_eq_zero_of_le fits, List.drop_zero]
  have same : log.destination.map (fun destination => (destination.take []).1) =
      log.destination := by
    simp only [Destination.take_nil, Option.map_id']
  simp only [extend, List.append_nil, whole, same]

theorem fits_extend (log : ByteLog) (bytes : List UInt8) : (log.extend bytes).Fits := by
  simp only [Fits, extend, length_lastBytes]
  exact Nat.min_le_left _ _

theorem tolerable_extend (tolerable : log.Tolerable) (bytes : List UInt8) :
    (log.extend bytes).Tolerable := by
  intro destination member
  obtain ⟨before, found, rfl⟩ := Option.map_eq_some_iff.mp member
  intro stage fault failed
  rw [Destination.failure_take] at failed
  exact tolerable before found stage fault failed

theorem forward_eq (log : ByteLog) (bytes : List UInt8) :
    log.forward bytes =
      ({ log with destination := log.destination.map fun destination => (destination.take bytes).1 },
        log.destination.bind fun destination => (destination.take bytes).2) := by
  unfold forward
  split
  next absent => obtain ⟨capacity, retained, destination, positive⟩ := log; cases absent; rfl
  next found => simp only [found, Option.map_some, Option.bind_some]

theorem retain_eq (log : ByteLog) (bytes : List UInt8) :
    log.retain bytes = { log with retained := lastBytes log.capacity (log.retained ++ bytes) } := by
  rw [← retained_retain]
  unfold retain
  split <;> rfl

theorem write_eq (tolerable : log.Tolerable) (bytes : List UInt8) :
    ∃ events, log.write bytes = (log.extend bytes, ⟨events, .ok bytes.length⟩) ∧
      events.countP Event.isClosing = 0 := by
  have extended : (log.forward bytes).1.retain bytes = log.extend bytes := by
    rw [retain_eq, forward_eq]
    rfl
  unfold write
  split
  next forwarded taken =>
    rw [taken] at extended
    exact ⟨[], by rw [extended], rfl⟩
  next forwarded fault taken =>
    have stream : fault.isStream = true := by
      rw [forward_eq, Prod.mk.injEq] at taken
      obtain ⟨destination, found, failed⟩ := Option.bind_eq_some_iff.mp taken.2
      exact Destination.fault_take (tolerable destination found) bytes fault failed
    rw [taken] at extended
    rw [if_pos stream]
    exact ⟨_, by rw [extended], rfl⟩

theorem copy_eq (fits : log.Fits) (tolerable : log.Tolerable) (readFault : Option Fault)
    (chunks : List (List UInt8)) :
    ∃ run, log.copy readFault chunks =
        (log.extend (chunks.takeWhile fun chunk => !chunk.isEmpty).flatten, run) ∧
      run.events.countP Event.isClosing = 0 ∧
      (run.result = .ok () ∨ ∃ fault ∈ readFault, run.result = .error fault) := by
  induction chunks generalizing log with
  | nil =>
      refine ⟨_, by rw [List.takeWhile_nil, List.flatten_nil, extend_nil fits]; rfl, rfl, ?_⟩
      cases readFault with
      | none => exact .inl rfl
      | some fault => exact .inr ⟨fault, rfl, rfl⟩
  | cons chunk rest ih =>
      rw [copy]
      cases last : chunk.isEmpty with
      | true =>
          refine ⟨⟨[], .ok ()⟩, ?_, rfl, .inl rfl⟩
          simp [last, extend_nil fits]
      | false =>
          obtain ⟨events, written, unclosed⟩ := write_eq tolerable chunk
          obtain ⟨run, copied, open', ending⟩ :=
            ih (fits_extend log chunk) (tolerable_extend tolerable chunk)
          refine ⟨⟨events ++ run.events, run.result⟩, ?_, ?_, ending⟩
          · simp [last, written, copied, extend_extend]
          · rw [List.countP_append, unclosed, open']

theorem pump_eq (fits : log.Fits) (tolerable : log.Tolerable) (stream : Stream) :
    (log.pump stream).1 = log.extend stream.given ∧
      (log.pump stream).2.events.countP Event.isClosing = 1 ∧
      (stream.Tolerable → (log.pump stream).2.result = .ok ()) := by
  obtain ⟨run, copied, unclosed, ending⟩ := copy_eq fits tolerable stream.readFault stream.chunks
  unfold pump
  rw [copied]
  refine ⟨rfl, ?_, ?_⟩
  · dsimp only
    rw [List.countP_append]
    split
    · rw [unclosed]
      rfl
    · split
      · rw [List.countP_append, unclosed]
        rfl
      · rw [unclosed]
        rfl
  · intro expected
    rcases ending with succeeded | ⟨fault, found, failed⟩
    · simp only [succeeded]
      split
      next => rfl
      next other closing => rw [if_pos (expected.closing other closing)]
    · simp only [failed, expected.reading fault found, if_true]
      split
      next => rfl
      next other closing => rw [if_pos (expected.closing other closing)]

inductive Operation
  | write (bytes : List UInt8)
  | pump (stream : Stream)
  | retrieve
  | retrieveText

inductive Answer
  | written (count : Nat)
  | copied
  | latest (bytes : List UInt8)
  | latestText (text : String)

def operate (log : ByteLog) : Operation → ByteLog × Run Fault Answer
  | .write bytes =>
      let (after, run) := log.write bytes
      (after, ⟨run.events, run.result.map .written⟩)
  | .pump stream =>
      let (after, run) := log.pump stream
      (after, ⟨run.events, run.result.map fun _ => .copied⟩)
  | .retrieve => (log, pure (.latest log.retained))
  | .retrieveText => (log, pure (.latestText log.text))

def operateAll (log : ByteLog) : List Operation → ByteLog × List (Run Fault Answer)
  | [] => (log, [])
  | operation :: rest =>
      let (after, run) := log.operate operation
      let (last, runs) := after.operateAll rest
      (last, run :: runs)

namespace Operation

def given : Operation → List UInt8
  | write bytes => bytes
  | pump stream => stream.given
  | retrieve | retrieveText => []

def isRetrieval : Operation → Bool
  | retrieve | retrieveText => true
  | _ => false

def Tolerable : Operation → Prop
  | pump stream => stream.Tolerable
  | _ => True

def answer (latest : List UInt8) : Operation → Answer
  | write bytes => .written bytes.length
  | pump _ => .copied
  | retrieve => .latest latest
  | retrieveText => .latestText (Text.Utf8.decodeReplacing latest)

def closings : Operation → Nat
  | pump _ => 1
  | _ => 0

structure Succeeds (operation : Operation) (latest : List UInt8) (run : Run Fault Answer) :
    Prop where
  result : run.result = .ok (operation.answer latest)
  closed : run.events.countP Event.isClosing = operation.closings

end Operation

def history (operations : List Operation) : List UInt8 :=
  operations.flatMap Operation.given

theorem history_without_retrievals (operations : List Operation) :
    history (operations.filter (!·.isRetrieval)) = history operations := by
  induction operations with
  | nil => rfl
  | cons operation rest ih =>
      cases operation with
      | write bytes => exact congrArg (bytes ++ ·) ih
      | pump stream => exact congrArg (stream.given ++ ·) ih
      | retrieve | retrieveText => exact ih

theorem eq_of_make? {capacity : Nat} {destination : Option Destination}
    (made : make? capacity destination = some log) :
    log.capacity = capacity ∧ log.retained = [] ∧ log.destination = destination := by
  unfold make? at made
  split at made
  · cases made
    exact ⟨Int.toNat_natCast capacity, rfl, rfl⟩
  · cases made

theorem sound_of_make? {capacity : Nat} {destination : Option Destination}
    (made : make? capacity destination = some log)
    (tolerable : ∀ place ∈ destination, place.Tolerable) : log.Fits ∧ log.Tolerable := by
  obtain ⟨_, empty, placed⟩ := eq_of_make? made
  refine ⟨?_, ?_⟩
  · simp only [Fits, empty, List.length_nil, Nat.zero_le]
  · rwa [Tolerable, placed]

theorem retained_extend_of_make? {capacity : Nat} {destination : Option Destination}
    (made : make? capacity destination = some log) (bytes : List UInt8) :
    (log.extend bytes).retained = bytes.rtake capacity := by
  obtain ⟨capacious, empty, _⟩ := eq_of_make? made
  simp only [extend, empty, capacious, List.nil_append, lastBytes_eq_rtake]

theorem make?_eq_some {capacity : Nat} (positive : 1 ≤ capacity)
    (destination : Option Destination) : ∃ log, make? capacity destination = some log := by
  rw [make?, dif_pos (by rwa [Int.toNat_natCast])]
  exact ⟨_, rfl⟩

theorem operate_eq (fits : log.Fits) (tolerable : log.Tolerable) {operation : Operation}
    (expected : operation.Tolerable) :
    (log.operate operation).1 = log.extend operation.given ∧
      operation.Succeeds log.retained (log.operate operation).2 := by
  cases operation with
  | write bytes =>
      obtain ⟨events, written, unclosed⟩ := write_eq tolerable bytes
      simp only [operate, written]
      exact ⟨rfl, rfl, unclosed⟩
  | pump stream =>
      obtain ⟨pumped, closed, succeeds⟩ := pump_eq fits tolerable stream
      refine ⟨pumped, ?_, closed⟩
      simp only [operate, succeeds expected]
      rfl
  | retrieve => exact ⟨(extend_nil fits).symm, rfl, rfl⟩
  | retrieveText => exact ⟨(extend_nil fits).symm, rfl, rfl⟩

theorem operateAll_eq (fits : log.Fits) (tolerable : log.Tolerable) {operations : List Operation}
    (expected : ∀ operation ∈ operations, operation.Tolerable) :
    (log.operateAll operations).1 = log.extend (history operations) ∧
      (log.operateAll operations).2.length = operations.length ∧
      ∀ (index : Nat) (operation : Operation) (run : Run Fault Answer),
        operations[index]? = some operation →
        (log.operateAll operations).2[index]? = some run →
        operation.Succeeds (log.extend (history (operations.take index))).retained run := by
  induction operations generalizing log with
  | nil => exact ⟨(extend_nil fits).symm, rfl, fun _ _ _ found => nomatch found⟩
  | cons operation rest ih =>
      obtain ⟨first, later⟩ := List.forall_mem_cons.mp expected
      obtain ⟨after, succeeds⟩ := operate_eq fits tolerable first
      obtain ⟨last, count, runs⟩ :=
        ih (fits_extend log operation.given) (tolerable_extend tolerable operation.given) later
      simp only [operateAll, after]
      refine ⟨?_, congrArg Nat.succ count, ?_⟩
      · rw [last, extend_extend]
        rfl
      · intro index other run found ran
        cases index with
        | zero =>
            cases found
            cases ran
            rw [List.take_zero]
            change operation.Succeeds (log.extend []).retained _
            rwa [extend_nil fits]
        | succ index =>
            have others := runs index other run found ran
            rwa [extend_extend] at others

/-- A byte log is the tail of its history. Whatever is done with a new log, each operation succeeds,
and the log retains the latest bytes of all that it was given, as many as it has room for. Looking at
it leaves no trace, and how the bytes were cut does not matter. -/
theorem operateAll_retains_tail {capacity : Nat} (positive : 1 ≤ capacity)
    {destination : Option Destination} {operations : List Operation}
    (forwards : ∀ place ∈ destination, place.Tolerable)
    (expected : ∀ operation ∈ operations, operation.Tolerable) :
    ∃ log, make? capacity destination = some log ∧
      (log.operateAll operations).1.retained = (history operations).rtake capacity ∧
      (∀ place ∈ destination, place.failure = none →
        (log.operateAll operations).1.destination =
          some { place with held := place.held ++ history operations }) ∧
      (log.operateAll operations).2.length = operations.length ∧
      (∀ (index : Nat) (operation : Operation) (run : Run Fault Answer),
        operations[index]? = some operation →
        (log.operateAll operations).2[index]? = some run →
        operation.Succeeds ((history (operations.take index)).rtake capacity) run) ∧
      (log.operateAll (operations.filter (!·.isRetrieval))).1 = (log.operateAll operations).1 ∧
      ∀ others, (∀ operation ∈ others, operation.Tolerable) →
        history others = history operations →
        (log.operateAll others).1 = (log.operateAll operations).1 := by
  obtain ⟨log, made⟩ := make?_eq_some positive destination
  obtain ⟨fits, tolerable⟩ := sound_of_make? made forwards
  have tail (bytes : List UInt8) : (log.extend bytes).retained = bytes.rtake capacity :=
    retained_extend_of_make? made bytes
  obtain ⟨last, count, runs⟩ := operateAll_eq fits tolerable expected
  have same {others : List Operation} (fine : ∀ operation ∈ others, operation.Tolerable)
      (alike : history others = history operations) :
      (log.operateAll others).1 = (log.operateAll operations).1 := by
    rw [last, (operateAll_eq fits tolerable fine).1, alike]
  refine ⟨log, made, ?_, ?_, count, ?_, ?_, fun _ => same⟩
  · rw [last, tail]
  · intro place member healthy
    rw [last, extend, (eq_of_make? made).2.2, Option.mem_def.mp member, Option.map_some,
      Destination.held_take_of_healthy healthy]
  · intro index operation run found ran
    rw [← tail]
    exact runs index operation run found ran
  · exact same (fun operation member => expected operation (List.mem_of_mem_filter member))
      (history_without_retrievals operations)

theorem operateAll_retains_tail_flushing :
    let place : Destination := { failure := some (.flush, ⟨.badValue, "closed file"⟩) }
    let stream : Stream :=
      { chunks := [[5], [6, 7], [], [8]], closeFault := some ⟨.system, "bad descriptor"⟩ }
    let operations := [.write [1, 2, 3, 4], .retrieve, .pump stream, .write [9], .retrieve]
    place.Tolerable ∧ (∀ operation ∈ operations, operation.Tolerable) ∧
      ∃ log, make? 3 (some place) = some log ∧
        (log.operateAll operations).1.retained = [6, 7, 9] ∧
        (log.operateAll operations).2.length = 5 := by
  intro place stream operations
  have forwards : ∀ other ∈ some place, other.Tolerable := by
    intro other member stage fault failed
    cases member
    cases failed
    rfl
  have tolerable : stream.Tolerable := by
    constructor
    · exact fun fault failed => nomatch failed
    · intro fault failed
      cases failed
      rfl
  have expected : ∀ operation ∈ operations, operation.Tolerable := by
    simp only [operations, List.forall_mem_cons]
    exact ⟨trivial, trivial, tolerable, trivial, trivial, by simp⟩
  obtain ⟨log, made, retained, _, count, _, _, _⟩ :=
    operateAll_retains_tail (show 1 ≤ 3 by decide) forwards expected
  exact ⟨forwards place rfl, expected, log, made, retained, count⟩

end ByteLog

end Warden
