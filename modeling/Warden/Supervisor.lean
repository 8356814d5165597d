import Warden.Child.Exit
import Warden.Child.Launch
import Warden.LaunchPlan
import Warden.Report.Notifier

/-!
The supervisor launches the main program again and again. Each round is one launch, a wait for the
last output, a notification, and a pause. A failure that comes too soon after the last start moves
on to the next launch attempt; a failed start does not count as one. A clock that runs out of the
range of its numbers ends the supervision.
-/

namespace Warden

structure Supervisor where
  plan : LaunchPlan
  secret : String
  notifier : Notifier
  host : Host
  flushDelay : Number
  failureThreshold : Int
  attemptInterval : Int

namespace Supervisor

structure State where
  attempt : Nat
  lastStart : Number
  now : Number
  output : ByteLog
  errors : ByteLog

structure Round where
  before : State
  command : List String
  events : List Event
  after : State
  result : Except Fault Unit

structure Step where
  after : State
  run : Run Fault Unit

namespace Step

def andThen (step : Step) (next : State → Step) : Step :=
  match step.run.result with
  | .ok _ =>
      let following := next step.after
      ⟨following.after, ⟨step.run.events ++ following.run.events, following.run.result⟩⟩
  | .error _ => step

def precededBy (step : Step) (event : Event) : Step :=
  ⟨step.after, ⟨event :: step.run.events, step.run.result⟩⟩

end Step

def outOfRange : Fault := ⟨.overflow, Number.outOfRangeMessage⟩

/-- Time passes with an event. The clock stands still if it cannot be computed any further. -/
def State.pass (state : State) (seconds : Number) (event : Event) : Step :=
  match state.now.add? seconds with
  | some now => ⟨{ state with now }, .emit event⟩
  | none => ⟨state, ⟨[event], .error outOfRange⟩⟩

def State.sleep (state : State) (seconds : Number) : Step :=
  state.pass seconds (.sleep seconds)

def State.await (state : State) (child : Child) : Step :=
  { state with lastStart := state.now }.pass child.runtime .awaitExit

def State.afterLaunch (state : State) (launch : Launch) : State :=
  let (output, errors) := launch.copyStreams state.output state.errors
  { state with output, errors }

def announcement (state : State) (flags : List String) : Event :=
  .log .info
    (s!"Attempt {state.attempt}: starting main program with CLI flags " ++ Text.quotedList flags)

def notStarted (state : State) (cause : String) : Event :=
  .log .warning (s!"Attempt {state.attempt}: failed to start main program: " ++ cause)

def ended (state : State) (cause : String) : Event :=
  .log .warning (s!"Attempt {state.attempt}: " ++ cause)

def isTooSoon? (supervisor : Supervisor) (state : State) : Option Bool :=
  (state.now.sub? state.lastStart).map fun passed =>
    passed.isLess (.whole supervisor.failureThreshold)

def escalation (supervisor : Supervisor) (attempt : Nat) : Event :=
  .log .warning (s!"Main program failed within {supervisor.failureThreshold}s of its last start, " ++
    s!"moving on to launch attempt {attempt}")

def judge (supervisor : Supervisor) (state : State) : Step :=
  match supervisor.isTooSoon? state with
  | some true =>
      ⟨{ state with attempt := state.attempt + 1 },
        .emit (supervisor.escalation (state.attempt + 1))⟩
  | some false => ⟨state, pure ()⟩
  | none => ⟨state, .fail outOfRange⟩

def notify (supervisor : Supervisor) (state : State) (flags : List String) (cause : String)
    (pid : Option Int) : Step :=
  let notified := supervisor.notifier.notify supervisor.host state.now
    { flags, cause, pid, output := state.output, errors := state.errors }
  ⟨state, ⟨notified.events, notified.result.map fun _ => ()⟩⟩

def handle (supervisor : Supervisor) (state : State) (flags : List String) (cause : String)
    (pid : Option Int) : Step :=
  (((state.sleep supervisor.flushDelay).andThen fun flushed =>
    supervisor.notify flushed flags cause pid).andThen supervisor.judge).andThen fun judged =>
      judged.sleep (.whole supervisor.attemptInterval)

/-- What follows a launch: the wait for the child if there is one, and the failure in any case. A
main program is not supposed to end, so a clean exit is a failure too. -/
def settle (supervisor : Supervisor) (state : State) (flags : List String) :
    Except Launch.Problem Child → Step
  | .ok child =>
      let cause := Child.exitMessage child.status
      (state.await child).andThen fun awaited =>
        (supervisor.handle awaited flags cause (some child.pid)).precededBy (ended awaited cause)
  | .error (.unhandled fault) => ⟨state, .fail fault⟩
  | .error problem =>
      (supervisor.handle state flags problem.message none).precededBy
        (notStarted state problem.message)

def round (supervisor : Supervisor) (command : List String) (state : State) (launch : Launch) :
    Round :=
  let flags := (supervisor.plan.resolve state.attempt).flags
  let launched := launch.perform (command ++ flags) supervisor.secret
  let settled := supervisor.settle (state.afterLaunch launch) flags launched.result
  { before := state
    command := command ++ flags
    events := announcement state flags :: launched.events ++ settled.run.events
    after := settled.after
    result := settled.run.result }

/-- The rounds of several launches, up to a fault that nobody handles or a stop that is requested.
The request is looked at once before each round. -/
def roundsUntil (supervisor : Supervisor) (command : List String) (stops : Nat → Bool)
    (state : State) : List Launch → List Round
  | [] => []
  | launch :: rest =>
      if stops 0 then []
      else
        let round := supervisor.round command state launch
        match round.result with
        | .error _ => [round]
        | .ok _ =>
            let later := fun index => stops (index + 1)
            round :: supervisor.roundsUntil command later round.after rest

def rounds (supervisor : Supervisor) (command : List String) (state : State)
    (launches : List Launch) : List Round :=
  supervisor.roundsUntil command (fun _ => false) state launches

inductive Problem
  | noExecutable
  | fault (cause : Fault)

structure Course where
  opening : List Event
  rounds : List Round
  closing : List Event
  final : State
  result : Except Problem Unit

def Course.events (course : Course) : List Event :=
  course.opening ++ course.rounds.flatMap Round.events ++ course.closing

def opened (daemons : List String) : Event :=
  .log .info ("Supervisor started for daemons " ++ Text.quotedList daemons)

def closed : Event := .log .info "Supervisor stopped"

def noExecutable : Event :=
  .log .critical
    ("Failed to determine path to this program executable: " ++ Host.noExecutableMessage)

def begin? (capacity : Int) (now : Number) : Option State := do
  let output ← ByteLog.make? capacity (some .healthy)
  let errors ← ByteLog.make? capacity (some .healthy)
  return ⟨0, now, now, output, errors⟩

def Course.ofRounds (daemons : List String) (state : State) (stops : Bool) (rounds : List Round) :
    Course :=
  let result := match rounds.getLast? with
    | some round => round.result.mapError .fault
    | none => .ok ()
  { opening := [opened daemons]
    rounds
    closing := if stops && result.isOk then [closed] else []
    final := (rounds.getLast?.map Round.after).getD state
    result }

def superviseUntil (supervisor : Supervisor) (stops : Nat → Bool) (state : State)
    (launches : List Launch) : Course :=
  match supervisor.host.command? with
  | none => ⟨[noExecutable], [], [], state, .error .noExecutable⟩
  | some command =>
      let rounds := supervisor.roundsUntil command stops state launches
      .ofRounds supervisor.plan.daemons state (stops rounds.length) rounds

/-- A supervision in which a stop is requested at the last of the launches or not at all. -/
def supervise (supervisor : Supervisor) (state : State) (launches : List Launch)
    (stopAtLast : Bool) : Course :=
  supervisor.superviseUntil (fun index => stopAtLast && launches.length ≤ index) state launches

def ofSettings (settings : Settings) (host : Host) (flags daemons : List String)
    (secret : String) : Supervisor :=
  { plan := LaunchPlan.make flags daemons Daemon.shedOrder
    secret
    notifier := Notifier.ofSettings settings
    host
    flushDelay := .binary settings.flushDelay
    failureThreshold := settings.failureThreshold
    attemptInterval := settings.attemptInterval }

end Supervisor

end Warden
