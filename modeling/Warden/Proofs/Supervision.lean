import Warden.Proofs.Rounds

/-!
One round of a supervision whose clock and delays are whole numbers, on a host without interrupts.
Nothing breaks off such a round but a launch fault that launching does not handle; how the clock,
the last start and the attempt come out of it depends on the launch alone.
-/

namespace Warden

namespace Launch

def seconds : Launch → Int
  | .refused _ => 0
  | .started child =>
      match child.fault?, child.runtime with
      | none, .whole seconds => seconds
      | _, _ => 0

/-- The ends of a launch that a supervision goes on from: a refusal by a stream fault, a hand-over
that breaks with a fault of input or output, and a child that runs for a whole time. -/
def Foreseen : Launch → Prop
  | .refused fault => fault.isStream = true
  | .started child =>
      match child.fault? with
      | some fault => fault.isSystem = true
      | none => ∃ seconds : Nat, child.runtime = .whole seconds

end Launch

def Event.launched? : Event → Option (List String)
  | .launch command => some command
  | _ => none

theorem Event.launched?_of_isReporting {event : Event} (reporting : event.isReporting = true) :
    event.launched? = none := by
  cases event <;> simp_all [Event.isReporting, Event.launched?]

theorem Launch.launched?_perform (launch : Launch) (command : List String) (secret : String) :
    (launch.perform command secret).events.filterMap Event.launched? = [command] := by
  rw [filterMap_perform (fun _ _ => rfl) rfl rfl rfl]
  cases launch <;> rfl

namespace Supervisor

variable {supervisor : Supervisor} {flush last now : Int} {state : State}

structure Steady (supervisor : Supervisor) (flush : Int) : Prop where
  ordinary : supervisor.host.Ordinary
  delay : supervisor.flushDelay = .whole flush

def small : Supervisor where
  plan := LaunchPlan.make ["-maxworkers", "5"] ["maintenance", "httpd"] Daemon.shedOrder
  secret := "secret"
  notifier := { client := none, recipients := [] }
  host := Host.quiet
  flushDelay := .whole 1
  failureThreshold := 1200
  attemptInterval := 10

theorem small_steady : small.Steady 1 :=
  ⟨Host.quiet_ordinary, rfl⟩

structure State.At (state : State) (last now : Int) : Prop where
  lastStart : state.lastStart = .whole last
  clock : state.now = .whole now

theorem begin?_eq_some {capacity : Int} {start : Number}
    (begun : begin? capacity start = some state) :
    state.attempt = 0 ∧ state.lastStart = start ∧ state.now = start := by
  simp only [begin?, Option.bind_eq_bind, Option.bind_eq_some_iff, Option.pure_def,
    Option.some.injEq] at begun
  obtain ⟨output, _, errors, _, rfl⟩ := begun
  exact ⟨rfl, rfl, rfl⟩

theorem State.At.of_begin? {capacity : Int} (begun : begin? capacity (.whole now) = some state) :
    state.At now now :=
  ⟨(begin?_eq_some begun).2.1, (begin?_eq_some begun).2.2⟩

def attemptAfter (supervisor : Supervisor) (attempt : Nat) (passed : Int) : Nat :=
  if passed < supervisor.failureThreshold then attempt + 1 else attempt

theorem handle_steady (steady : supervisor.Steady flush) (timed : state.At last now)
    (flags : List String) (cause : String) (pid : Option Int) :
    (supervisor.handle state flags cause pid).run.result = .ok () := by
  rw [handle_eq state steady.ordinary (by rw [timed.clock, steady.delay]; rfl)
    (by rw [timed.lastStart]; rfl) rfl]

/-- How a round of a steady supervision comes out: it ends well, with the clock moved on by the
child's time and both delays, with a last start that a handed-over secret alone moves, and with the
attempt that the time since the last start asks for. -/
structure Round.Regular (round : Round) (supervisor : Supervisor) (flush : Int) (launch : Launch)
    (last now : Int) : Prop where
  result : round.result = .ok ()
  after : round.after.At (if launch.handsOver then now else last)
    (now + launch.seconds + flush + supervisor.attemptInterval)
  attempt : round.after.attempt = supervisor.attemptAfter round.before.attempt
    (now + launch.seconds + flush - if launch.handsOver then now else last)
  events : ∃ opening closing reports : List Event,
    (∀ event ∈ opening ++ closing ++ reports, event.isReporting = true) ∧
    round.events = opening ++ (launch.perform round.command supervisor.secret).events ++
      (if launch.handsOver then [.awaitExit] else []) ++ closing ++
      .sleep (.whole flush) :: reports ++ [.sleep (.whole supervisor.attemptInterval)]

theorem State.At.afterLaunch (timed : state.At last now) (launch : Launch) :
    (state.afterLaunch launch).At last now :=
  ⟨timed.lastStart, timed.clock⟩

theorem attempt_whole (supervisor : Supervisor) (attempt : Nat) (passed : Int) :
    attempt + (supervisor.isSoon (.whole passed)).toNat =
      supervisor.attemptAfter attempt passed := by
  by_cases soon : passed < supervisor.failureThreshold <;>
    simp [isSoon, Number.isLess, attemptAfter, soon]

def wholeMoments (supervisor : Supervisor) (flush : Int) (launch : Launch) (last now : Int) :
    Moments where
  gone := .whole (now + launch.seconds)
  flushed := .whole (now + launch.seconds + flush)
  passed := .whole (now + launch.seconds + flush - if launch.handsOver then now else last)
  next := .whole (now + launch.seconds + flush + supervisor.attemptInterval)

theorem startAfter_whole (launch : Launch) (last now : Int) :
    launch.startAfter (.whole last) (.whole now) =
      .whole (if launch.handsOver then now else last) := by
  unfold Launch.startAfter
  split <;> rfl

theorem tells_whole {launch : Launch} (steady : supervisor.Steady flush)
    (foreseen : launch.Foreseen) :
    supervisor.Tells launch (.whole last) (.whole now)
      (supervisor.wholeMoments flush launch last now) := by
  refine ⟨?_, ?_, ?_, rfl⟩
  · cases launch with
    | refused fault => simp [Launch.goneAt?, wholeMoments, Launch.seconds]
    | started child =>
        cases broken : child.fault? with
        | none =>
            simp only [Launch.Foreseen, broken] at foreseen
            obtain ⟨seconds, whole⟩ := foreseen
            simp [Launch.goneAt?, wholeMoments, Launch.seconds, broken, whole, Number.add?]
        | some fault => simp [Launch.goneAt?, wholeMoments, Launch.seconds, broken]
  · rw [steady.delay]
    rfl
  · rw [startAfter_whole]
    rfl

theorem handled_of_foreseen {launch : Launch} (foreseen : launch.Foreseen) : launch.Handled := by
  cases launch with
  | refused fault => exact foreseen
  | started child =>
      intro fault broken
      simpa only [Launch.Foreseen, broken] using foreseen

theorem round_regular {launch : Launch} (steady : supervisor.Steady flush)
    (timed : state.At last now) (command : List String) (foreseen : launch.Foreseen) :
    (supervisor.round command state launch).Regular supervisor flush launch last now := by
  have tells : supervisor.Tells launch state.lastStart state.now
      (supervisor.wholeMoments flush launch last now) := by
    rw [timed.lastStart, timed.clock]
    exact tells_whole steady foreseen
  have complete := round_completes steady.ordinary (handled_of_foreseen foreseen) tells command
  have before : (supervisor.round command state launch).before = state := rfl
  constructor
  · exact complete.result
  · rw [complete.after, before]
    refine ⟨?_, rfl⟩
    rw [← startAfter_whole, ← timed.lastStart, ← timed.clock]
    rfl
  · rw [complete.after]
    exact attempt_whole supervisor _ _
  · let flags := (supervisor.plan.resolve state.attempt).flags
    let moments := supervisor.wholeMoments flush launch last now
    refine ⟨[announcement state flags], [failed state launch],
      (supervisor.notify (state.atReport launch moments) flags launch.cause launch.pid?).run.events ++
        supervisor.escalations state.attempt moments.passed, ?_, ?_⟩
    · intro event member
      simp only [List.mem_append, List.mem_singleton] at member
      rcases member with (rfl | rfl) | notified | escalated
      · rfl
      · exact failed_reporting state launch
      · exact notify_reporting supervisor _ flags _ _ event notified
      · exact escalations_reporting supervisor _ _ event escalated
    · rw [complete.events, before, steady.delay]
      simp [flags, moments]

end Supervisor

end Warden
