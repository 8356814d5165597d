import Warden.Proofs.Launching
import Warden.Proofs.Notification
import Warden.Supervisor

/-!
One round of a supervision, on a host without interrupts. If launching handles what goes wrong with
the launch and the clock can tell every moment of the round, then the round comes to its end, and
the state and the events that it leaves behind are known.
-/

namespace Warden

def Event.isChildless : Event → Bool
  | .log _ _ | .lookUp _ | .mail _ | .sleep _ => true
  | _ => false

theorem Event.isChildless_of_isReporting {event : Event} (reporting : event.isReporting = true) :
    event.isChildless = true := by
  cases event <;> simp_all [Event.isReporting, Event.isChildless]

namespace Launch

def handsOver : Launch → Bool
  | .refused _ => false
  | .started child => child.fault?.isNone

/-- The launches that a supervision goes on from: a refusal by a stream fault, and a child whose
hand-over breaks with no fault but one of input or output. -/
def Handled : Launch → Prop
  | .refused fault => fault.isStream = true
  | .started child => ∀ fault, child.fault? = some fault → fault.isSystem = true

/-- The clock when there is no child any more. One that was given up is awaited without any time
passing. -/
def goneAt? (launch : Launch) (now : Number) : Option Number :=
  match launch with
  | .refused _ => some now
  | .started child => if child.fault?.isNone then now.add? child.runtime else some now

def startAfter (launch : Launch) (last now : Number) : Number :=
  if launch.handsOver then now else last

def cause : Launch → String
  | .refused fault => (Problem.notStarted fault).message
  | .started child =>
      match child.fault? with
      | none => Child.exitMessage child.status
      | some fault => (Problem.noHandOver fault).message

def pid? : Launch → Option Int
  | .refused _ => none
  | .started child => if child.fault?.isNone then some child.pid else none

structure FailsWith (launch : Launch) (problem : Problem) : Prop where
  result : ∀ command secret, (launch.perform command secret).result = .error problem
  reported : problem.isReported = true
  cause : launch.cause = problem.message
  still : launch.handsOver = false

theorem failsWith_refused {fault : Fault} (stream : fault.isStream = true) :
    (refused fault).FailsWith (.notStarted fault) :=
  ⟨fun command secret => by rw [perform_refused, if_pos stream], rfl, rfl, rfl⟩

theorem failsWith_givenUp {child : Child} {fault : Fault} (broken : child.fault? = some fault)
    (handled : fault.isSystem = true) : (started child).FailsWith (.noHandOver fault) :=
  ⟨fun command secret => by rw [perform_givenUp broken handled], rfl, by simp [cause, broken],
    by simp [handsOver, broken]⟩

theorem FailsWith.pid?_eq {launch : Launch} {problem : Problem} (fails : launch.FailsWith problem) :
    launch.pid? = none := by
  cases launch with
  | refused fault => rfl
  | started child =>
      have broken : child.fault?.isNone = false := fails.still
      simp [pid?, broken, -Option.isNone_eq_false_iff]

theorem FailsWith.goneAt?_eq {launch : Launch} {problem : Problem}
    (fails : launch.FailsWith problem) (now : Number) : launch.goneAt? now = some now := by
  cases launch with
  | refused fault => rfl
  | started child =>
      have broken : child.fault?.isNone = false := fails.still
      simp [goneAt?, broken, -Option.isNone_eq_false_iff]

end Launch

namespace Supervisor

variable {supervisor : Supervisor} {state : State} {launch : Launch}

def Step.Every (step : Step) (holds : Event → Prop) : Prop :=
  ∀ event ∈ step.run.events, holds event

section Every

variable {step : Step} {holds : Event → Prop}

theorem Step.Every.mono {weaker : Event → Prop} (every : step.Every holds)
    (implies : ∀ event, holds event → weaker event) : step.Every weaker :=
  fun event member => implies event (every event member)

theorem Step.Every.andThen {next : State → Step} (first : step.Every holds)
    (second : ∀ state, (next state).Every holds) : (step.andThen next).Every holds := by
  unfold Step.andThen
  split
  · intro event member
    rcases List.mem_append.mp member with early | late
    · exact first event early
    · exact second _ event late
  · exact first

theorem Step.Every.precededBy {event : Event} (every : step.Every holds) (first : holds event) :
    (step.precededBy event).Every holds :=
  List.forall_mem_cons.mpr ⟨first, every⟩

theorem State.pass_every {event : Event} (state : State) (seconds : Number) (fits : holds event) :
    (state.pass seconds event).Every holds := by
  unfold State.pass
  split
  · exact List.forall_mem_singleton.mpr fits
  · exact List.forall_mem_singleton.mpr fits

end Every

/-- The moments of a round: when there is no child any more, when its last output has come, and when
the next round begins; and the time by which the failure is judged. -/
structure Moments where
  gone : Number
  flushed : Number
  passed : Number
  next : Number

structure Tells (supervisor : Supervisor) (launch : Launch) (last now : Number)
    (moments : Moments) : Prop where
  gone : launch.goneAt? now = some moments.gone
  flushed : moments.gone.add? supervisor.flushDelay = some moments.flushed
  passed : moments.flushed.sub? (launch.startAfter last now) = some moments.passed
  next : moments.flushed.add? (.whole supervisor.attemptInterval) = some moments.next

def isSoon (supervisor : Supervisor) (passed : Number) : Bool :=
  passed.isLess (.whole supervisor.failureThreshold)

def escalations (supervisor : Supervisor) (attempt : Nat) (passed : Number) : List Event :=
  if supervisor.isSoon passed then [supervisor.escalation (attempt + 1)] else []

def State.atReport (state : State) (launch : Launch) (moments : Moments) : State :=
  { state.afterLaunch launch with
    lastStart := launch.startAfter state.lastStart state.now
    now := moments.flushed }

def failed (state : State) (launch : Launch) : Event :=
  if launch.handsOver then ended state launch.cause else notStarted state launch.cause

theorem notify_reporting (supervisor : Supervisor) (state : State) (flags : List String)
    (cause : String) (pid : Option Int) :
    ∀ event ∈ (supervisor.notify state flags cause pid).run.events, event.isReporting = true :=
  Notifier.notify_reporting supervisor.notifier supervisor.host state.now _

theorem judge_childless (supervisor : Supervisor) (state : State) :
    (supervisor.judge state).Every (·.isChildless = true) := by
  unfold judge
  split
  · exact List.forall_mem_singleton.mpr rfl
  · exact fun _ member => nomatch member
  · exact fun _ member => nomatch member

theorem handle_childless (supervisor : Supervisor) (state : State) (flags : List String)
    (cause : String) (pid : Option Int) :
    (supervisor.handle state flags cause pid).Every (·.isChildless = true) := by
  have notified (flushed : State) :
      (supervisor.notify flushed flags cause pid).Every (·.isChildless = true) :=
    fun event member => Event.isChildless_of_isReporting
      (supervisor.notify_reporting flushed flags cause pid event member)
  have slept (state : State) (seconds : Number) :
      (state.sleep seconds).Every (·.isChildless = true) := state.pass_every seconds rfl
  exact (((slept state _).andThen notified).andThen supervisor.judge_childless).andThen
    fun judged => slept judged _

theorem settle_every {holds : Event → Prop}
    (childless : ∀ event, event.isChildless = true → holds event) (awaiting : holds .awaitExit)
    (supervisor : Supervisor) (state : State) (flags : List String)
    (launched : Except Launch.Problem Child) :
    (supervisor.settle state flags launched).Every holds := by
  have handled (state : State) (cause : String) (pid : Option Int) :
      (supervisor.handle state flags cause pid).Every holds :=
    (supervisor.handle_childless state flags cause pid).mono childless
  unfold settle
  split
  next child =>
      have awaited : (state.await child).Every holds := State.pass_every _ _ awaiting
      exact awaited.andThen fun after => (handled after _ _).precededBy (childless _ rfl)
  next => exact fun _ member => nomatch member
  next => exact (handled state _ _).precededBy (childless _ rfl)

theorem escalations_reporting (supervisor : Supervisor) (attempt : Nat) (passed : Number) :
    ∀ event ∈ supervisor.escalations attempt passed, event.isReporting = true := by
  unfold escalations
  split
  · exact List.forall_mem_singleton.mpr rfl
  · exact fun _ member => nomatch member

theorem failed_reporting (state : State) (launch : Launch) :
    (failed state launch).isReporting = true := by
  unfold failed
  split <;> rfl

theorem notify_ordinary (ordinary : supervisor.host.Ordinary) (flags : List String)
    (cause : String) (pid : Option Int) :
    supervisor.notify state flags cause pid =
      ⟨state, ⟨(supervisor.notify state flags cause pid).run.events, .ok ()⟩⟩ := by
  obtain ⟨sent, returned⟩ := Notifier.notify_returns ordinary supervisor.notifier state.now
    { flags, cause, pid, output := state.output, errors := state.errors }
  simp [notify, returned, Except.map]

theorem judge_eq {passed : Number} (told : state.now.sub? state.lastStart = some passed) :
    supervisor.judge state =
      ⟨{ state with attempt := state.attempt + (supervisor.isSoon passed).toNat },
        ⟨supervisor.escalations state.attempt passed, .ok ()⟩⟩ := by
  have judged : supervisor.isTooSoon? state = some (supervisor.isSoon passed) := by
    simp [isTooSoon?, told, isSoon]
  cases soon : supervisor.isSoon passed <;>
    simp [judge, judged, soon, escalations, Run.emit, pure]

theorem handle_eq (state : State) {flushed passed next : Number}
    (ordinary : supervisor.host.Ordinary)
    (waits : state.now.add? supervisor.flushDelay = some flushed)
    (judges : flushed.sub? state.lastStart = some passed)
    (pauses : flushed.add? (.whole supervisor.attemptInterval) = some next)
    (flags : List String) (cause : String) (pid : Option Int) :
    supervisor.handle state flags cause pid =
      ⟨{ state with attempt := state.attempt + (supervisor.isSoon passed).toNat, now := next },
        ⟨.sleep supervisor.flushDelay ::
          ((supervisor.notify { state with now := flushed } flags cause pid).run.events ++
            supervisor.escalations state.attempt passed ++
            [.sleep (.whole supervisor.attemptInterval)]), .ok ()⟩⟩ := by
  have slept : state.sleep supervisor.flushDelay =
      ⟨{ state with now := flushed }, .emit (.sleep supervisor.flushDelay)⟩ := by
    simp [State.sleep, State.pass, waits]
  have notified : supervisor.notify { state with now := flushed } flags cause pid = _ :=
    notify_ordinary ordinary flags cause pid
  have judged : supervisor.judge { state with now := flushed } = _ := judge_eq judges
  rw [handle, slept]
  simp only [Step.andThen, Run.emit]
  rw [notified]
  simp only [judged]
  simp [State.sleep, State.pass, pauses, Run.emit]

structure Round.Completes (round : Round) (supervisor : Supervisor) (launch : Launch)
    (moments : Moments) : Prop where
  result : round.result = .ok ()
  after : round.after =
    { round.before.atReport launch moments with
      attempt := round.before.attempt + (supervisor.isSoon moments.passed).toNat
      now := moments.next }
  events : round.events =
    announcement round.before (supervisor.plan.resolve round.before.attempt).flags ::
      (launch.perform round.command supervisor.secret).events ++
      (if launch.handsOver then [.awaitExit] else []) ++
      failed round.before launch :: .sleep supervisor.flushDelay ::
      ((supervisor.notify (round.before.atReport launch moments)
        (supervisor.plan.resolve round.before.attempt).flags launch.cause launch.pid?).run.events ++
        supervisor.escalations round.before.attempt moments.passed ++
        [.sleep (.whole supervisor.attemptInterval)])

theorem settle_reported {problem : Launch.Problem} (supervisor : Supervisor) (state : State)
    (flags : List String) (reported : problem.isReported = true) :
    supervisor.settle state flags (.error problem) =
      (supervisor.handle state flags problem.message none).precededBy
        (notStarted state problem.message) := by
  cases problem <;> simp_all [settle, Launch.Problem.isReported]

theorem round_of_failsWith {problem : Launch.Problem} {moments : Moments}
    (ordinary : supervisor.host.Ordinary) (fails : launch.FailsWith problem)
    (tells : supervisor.Tells launch state.lastStart state.now moments) (command : List String) :
    (supervisor.round command state launch).Completes supervisor launch moments := by
  obtain ⟨gone, flushed, passed, next⟩ := tells
  have still : moments.gone = state.now := by
    simpa [fails.goneAt?_eq] using gone.symm
  have start : launch.startAfter state.lastStart state.now = state.lastStart := by
    simp [Launch.startAfter, fails.still]
  rw [still] at flushed
  rw [start] at passed
  let flags := (supervisor.plan.resolve state.attempt).flags
  have handled : supervisor.handle (state.afterLaunch launch) flags problem.message none = _ :=
    handle_eq (state.afterLaunch launch) ordinary flushed passed next flags problem.message none
  have settled := settle_reported supervisor (state.afterLaunch launch) flags fails.reported
  constructor
  · simp only [round, fails.result, flags, settled, handled, Step.precededBy]
  · simp only [round, fails.result, flags, settled, handled, Step.precededBy, State.atReport, start]
    rfl
  · simp only [round, fails.result, flags, settled, handled, Step.precededBy, State.atReport, start,
      failed, fails.still, fails.cause, fails.pid?_eq, List.append_assoc, List.cons_append]
    rfl

theorem round_of_handsOver {child : Child} {moments : Moments}
    (ordinary : supervisor.host.Ordinary) (calm : child.fault? = none)
    (tells : supervisor.Tells (.started child) state.lastStart state.now moments)
    (command : List String) :
    (supervisor.round command state (.started child)).Completes supervisor (.started child)
      moments := by
  obtain ⟨gone, flushed, passed, next⟩ := tells
  have handsOver : (Launch.started child).handsOver = true := by simp [Launch.handsOver, calm]
  have runs : state.now.add? child.runtime = some moments.gone := by
    simpa [Launch.goneAt?, calm] using gone
  have start : (Launch.started child).startAfter state.lastStart state.now = state.now := by
    simp [Launch.startAfter, handsOver]
  rw [start] at passed
  let flags := (supervisor.plan.resolve state.attempt).flags
  let launched := state.afterLaunch (.started child)
  let awaited : State := { launched with lastStart := state.now, now := moments.gone }
  have waits : launched.await child = ⟨awaited, .emit .awaitExit⟩ := by
    simp [State.await, State.pass, launched, awaited, State.afterLaunch, runs]
  have handled : supervisor.handle awaited flags (Child.exitMessage child.status) (some child.pid) =
      _ := handle_eq awaited ordinary flushed passed next flags _ _
  have performed := Launch.perform_handedOver calm (command ++ flags) supervisor.secret
  have settled : supervisor.settle launched flags (.ok child) =
      ((supervisor.handle awaited flags (Child.exitMessage child.status) (some child.pid)).precededBy
        (ended awaited (Child.exitMessage child.status))).precededBy .awaitExit := by
    simp [settle, waits, Step.andThen, Step.precededBy, Run.emit]
  have told : (Launch.started child).cause = Child.exitMessage child.status := by
    simp [Launch.cause, calm]
  have known : (Launch.started child).pid? = some child.pid := by simp [Launch.pid?, calm]
  constructor
  · simp only [round, performed, flags, launched, settled, handled, Step.precededBy]
  · simp only [round, performed, flags, launched, settled, handled, Step.precededBy, State.atReport,
      start]
    rfl
  · simp only [round, performed, flags, launched, settled, handled, Step.precededBy, State.atReport,
      start, failed, handsOver, told, known, List.append_assoc, List.cons_append]
    rfl

theorem round_completes {moments : Moments} (ordinary : supervisor.host.Ordinary)
    (handled : launch.Handled)
    (tells : supervisor.Tells launch state.lastStart state.now moments) (command : List String) :
    (supervisor.round command state launch).Completes supervisor launch moments := by
  cases launch with
  | refused fault =>
      exact round_of_failsWith ordinary (Launch.failsWith_refused handled) tells command
  | started child =>
      cases broken : child.fault? with
      | none => exact round_of_handsOver ordinary broken tells command
      | some fault =>
          exact round_of_failsWith ordinary
            (Launch.failsWith_givenUp broken (handled fault broken)) tells command

theorem rounds_nil (supervisor : Supervisor) (command : List String) (state : State) :
    supervisor.rounds command state [] = [] := rfl

theorem rounds_cons (supervisor : Supervisor) (command : List String) (state : State)
    (launch : Launch) (rest : List Launch) :
    supervisor.rounds command state (launch :: rest) =
      match (supervisor.round command state launch).result with
      | .error _ => [supervisor.round command state launch]
      | .ok _ => supervisor.round command state launch ::
          supervisor.rounds command (supervisor.round command state launch).after rest := by
  rw [rounds, roundsUntil]
  rfl

theorem roundsUntil_of_going {stops : Nat → Bool} {launches : List Launch}
    (going : ∀ index < launches.length, stops index = false) (command : List String)
    (state : State) :
    supervisor.roundsUntil command stops state launches =
      supervisor.rounds command state launches := by
  induction launches generalizing stops state with
  | nil => rfl
  | cons launch rest ih =>
      have later (next : State) :
          supervisor.roundsUntil command (fun index => stops (index + 1)) next rest =
            supervisor.rounds command next rest :=
        ih (fun index below => going (index + 1) (Nat.succ_lt_succ below)) next
      rw [roundsUntil, rounds_cons, going 0 (Nat.zero_lt_succ _)]
      cases ending : (supervisor.round command state launch).result with
      | error fault => simp only [ending, Bool.false_eq_true, if_false]
      | ok _ => simp only [ending, later, Bool.false_eq_true, if_false]

theorem length_rounds (supervisor : Supervisor) (command : List String) (state : State)
    (launches : List Launch) :
    (supervisor.rounds command state launches).length = launches.length ∨
      ∃ last fault, (supervisor.rounds command state launches).getLast? = some last ∧
        last.result = .error fault := by
  induction launches generalizing state with
  | nil => exact .inl rfl
  | cons launch rest ih =>
      rw [rounds_cons]
      split
      next fault failed => exact .inr ⟨_, fault, rfl, failed⟩
      next =>
        rcases ih (supervisor.round command state launch).after with
          whole | ⟨last, fault, found, failed⟩
        · exact .inl (congrArg Nat.succ whole)
        · exact .inr ⟨last, fault, by rw [List.getLast?_cons, found]; rfl, failed⟩

theorem Course.closing_ofRounds (daemons : List String) (state : State) (stops : Bool)
    (rounds : List Round) :
    (Course.ofRounds daemons state stops rounds).closing =
      if stops && (Course.ofRounds daemons state stops rounds).result.isOk then [closed] else [] :=
  rfl

theorem Course.result_ofRounds {rounds : List Round} (daemons : List String) (state : State)
    (stops : Bool) (well : ∀ round ∈ rounds, round.result = .ok ()) :
    (Course.ofRounds daemons state stops rounds).result = .ok () := by
  dsimp only [Course.ofRounds]
  cases latest : rounds.getLast? with
  | none => rfl
  | some last =>
      simp only [well last (List.mem_of_getLast? latest)]
      rfl

/-- Rounds that broke off are fewer than the launches, but then no end is told either. -/
theorem ofRounds_of_rounds (supervisor : Supervisor) (stops : Nat → Bool) (command : List String)
    (state : State) (launches : List Launch) :
    Course.ofRounds supervisor.plan.daemons state
        (stops (supervisor.rounds command state launches).length)
        (supervisor.rounds command state launches) =
      .ofRounds supervisor.plan.daemons state (stops launches.length)
        (supervisor.rounds command state launches) := by
  rcases supervisor.length_rounds command state launches with whole | ⟨last, fault, latest, failed⟩
  · rw [whole]
  · have broken : (last.result.mapError Problem.fault).isOk = false := by
      rw [failed]
      rfl
    simp only [Course.ofRounds, latest, broken, Bool.and_false]

theorem superviseUntil_of_lost (lost : supervisor.host.command? = none) (stops : Nat → Bool)
    (state : State) (launches : List Launch) :
    supervisor.superviseUntil stops state launches =
      ⟨[noExecutable], [], [], state, .error .noExecutable⟩ := by
  rw [superviseUntil, lost]

theorem supervise_of_lost (lost : supervisor.host.command? = none) (state : State)
    (launches : List Launch) (stopAtLast : Bool) :
    supervisor.supervise state launches stopAtLast =
      ⟨[noExecutable], [], [], state, .error .noExecutable⟩ :=
  superviseUntil_of_lost lost _ state launches

theorem superviseUntil_of_found {command : List String}
    (found : supervisor.host.command? = some command) (stops : Nat → Bool) (state : State)
    (launches : List Launch) :
    let rounds := supervisor.roundsUntil command stops state launches
    supervisor.superviseUntil stops state launches =
      .ofRounds supervisor.plan.daemons state (stops rounds.length) rounds := by
  rw [superviseUntil, found]

theorem supervise_eq {command : List String} (found : supervisor.host.command? = some command)
    (state : State) (launches : List Launch) (stopAtLast : Bool) :
    supervisor.supervise state launches stopAtLast =
      .ofRounds supervisor.plan.daemons state stopAtLast
        (supervisor.rounds command state launches) := by
  let stops := fun index => stopAtLast && decide (launches.length ≤ index)
  have going : ∀ index < launches.length, stops index = false := by
    intro index below
    simp [stops, Nat.not_le.mpr below]
  have last : stops launches.length = stopAtLast := by simp [stops]
  calc supervisor.supervise state launches stopAtLast
      = .ofRounds supervisor.plan.daemons state
          (stops (supervisor.rounds command state launches).length)
          (supervisor.rounds command state launches) := by
        rw [← roundsUntil_of_going going]
        exact superviseUntil_of_found found stops state launches
    _ = .ofRounds supervisor.plan.daemons state stopAtLast
          (supervisor.rounds command state launches) := by
        rw [supervisor.ofRounds_of_rounds stops, last]

theorem filterMap_supervise {α : Type} {pick : Event → Option α}
    (logs : ∀ level message, pick (.log level message) = none) (supervisor : Supervisor)
    (state : State) (launches : List Launch) (stopAtLast : Bool) :
    let course := supervisor.supervise state launches stopAtLast
    course.events.filterMap pick = (course.rounds.flatMap Round.events).filterMap pick := by
  cases found : supervisor.host.command? with
  | none => simp [supervise_of_lost found, Course.events, noExecutable, logs]
  | some command =>
      have front (daemons : List String) : [opened daemons].filterMap pick = [] := by
        simp [opened, logs]
      have back (stops : Bool) : (if stops then [closed] else []).filterMap pick = [] := by
        cases stops <;> simp [closed, logs]
      simp only [supervise_eq found, Course.ofRounds, Course.events, List.filterMap_append, front,
        back, List.nil_append, List.append_nil]

end Supervisor

end Warden
