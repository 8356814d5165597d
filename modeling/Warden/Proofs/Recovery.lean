import Warden.Proofs.Supervision

/-!
What a failed launch leaves behind. A launch that fails should end in a failure of its own kind with
no child left over, and the supervision should go on from it. That is so unless the hand-over breaks
with a stream fault that is none of input or output: such a fault goes through everything.
-/

namespace Warden

/-- A launch fails cleanly if the failure is one that launching reports, and if the child, where
there is one, has been killed and awaited by then. -/
structure Launch.FailsCleanly (launch : Launch) (command : List String) (secret : String) :
    Prop where
  reported : ∃ problem, (launch.perform command secret).result = .error problem ∧
    problem.isReported = true
  reaped : ∀ child, launch = .started child → ∃ earlier : List Event,
    (launch.perform command secret).events = earlier ++ [.kill, .awaitExit]

structure Launch.Escapes (launch : Launch) (fault : Fault) (command : List String)
    (secret : String) : Prop where
  result : (launch.perform command secret).result = .error (.unhandled fault)
  unkilled : ∀ event ∈ (launch.perform command secret).events,
    event ≠ .kill ∧ event ≠ .awaitExit

namespace Launch

theorem failsCleanly_refused {fault : Fault} (stream : fault.isStream = true)
    (command : List String) (secret : String) : (refused fault).FailsCleanly command secret :=
  ⟨⟨.notStarted fault, by simp [perform_refused, stream], rfl⟩, fun _ started => by cases started⟩

theorem failsCleanly_givenUp {child : Child} {fault : Fault} (broken : child.fault? = some fault)
    (handled : fault.isSystem = true) (command : List String) (secret : String) :
    (started child).FailsCleanly command secret := by
  have performed := perform_givenUp broken handled command secret
  refine ⟨⟨.noHandOver fault, by rw [performed], rfl⟩, ?_⟩
  intro _ _
  refine ⟨.launch command :: inputEvents child secret ++ [givenUp child], ?_⟩
  rw [performed]
  simp

theorem escapes_started {child : Child} {fault : Fault} (broken : child.fault? = some fault)
    (passed : fault.isSystem = false) (command : List String) (secret : String) :
    (started child).Escapes fault command secret := by
  have performed := perform_unhandled broken passed command secret
  refine ⟨by rw [performed], ?_⟩
  rw [performed]
  cases written : child.writeFault <;> simp [inputEvents, written]

theorem Escapes.not_failsCleanly {launch : Launch} {fault : Fault} {command : List String}
    {secret : String} (escapes : launch.Escapes fault command secret) :
    ¬launch.FailsCleanly command secret := by
  rintro ⟨⟨problem, failed, reported⟩, _⟩
  rw [escapes.result] at failed
  cases failed
  cases reported

theorem failsCleanly_of_handled {launch : Launch} {fault : Fault}
    (failed : launch.fault? = some fault) (stream : fault.isStream = true)
    (handled : launch = .refused fault ∨ fault.isSystem = true) (command : List String)
    (secret : String) : launch.FailsCleanly command secret := by
  cases launch with
  | refused other =>
      obtain rfl : other = fault := by simpa [fault?] using failed
      exact failsCleanly_refused stream command secret
  | started child =>
      have system : fault.isSystem = true := by simpa using handled
      exact failsCleanly_givenUp failed system command secret

theorem escapes_of_unhandled {launch : Launch} {fault : Fault}
    (failed : launch.fault? = some fault)
    (unhandled : ¬(launch = .refused fault ∨ fault.isSystem = true)) (command : List String)
    (secret : String) : launch.Escapes fault command secret := by
  cases launch with
  | refused other =>
      obtain rfl : other = fault := by simpa [fault?] using failed
      simp at unhandled
  | started child =>
      have passed : fault.isSystem = false := by simpa using unhandled
      exact escapes_started failed passed command secret

end Launch

namespace Supervisor

variable {supervisor : Supervisor} {flush last now : Int} {state : State}

structure Recovers (supervisor : Supervisor) (command : List String) (state : State)
    (launch : Launch) : Prop where
  returns : (supervisor.round command state launch).result = .ok ()
  handled : ∃ problem : Launch.Problem,
    let flags := (supervisor.plan.resolve state.attempt).flags
    let handling := supervisor.handle (state.afterLaunch launch) flags problem.message none
    (supervisor.round command state launch).after = handling.after ∧
      (supervisor.round command state launch).events = announcement state flags ::
        (launch.perform (command ++ flags) supervisor.secret).events ++
        notStarted (state.afterLaunch launch) problem.message :: handling.run.events

theorem recovers_of_failsCleanly {launch : Launch} (steady : supervisor.Steady flush)
    (timed : state.At last now) {command : List String}
    (clean : launch.FailsCleanly (command ++ (supervisor.plan.resolve state.attempt).flags)
      supervisor.secret) :
    supervisor.Recovers command state launch := by
  obtain ⟨problem, failed, reported⟩ := clean.reported
  have settled := settle_reported supervisor (state.afterLaunch launch)
    (supervisor.plan.resolve state.attempt).flags reported
  have handled := handle_steady steady (timed.afterLaunch launch)
    (supervisor.plan.resolve state.attempt).flags problem.message none
  refine ⟨?_, problem, ?_, ?_⟩
  · simp only [round, failed, settled, handled, Step.precededBy]
  · simp only [round, failed, settled, Step.precededBy]
  · simp only [round, failed, settled, Step.precededBy]

theorem round_of_escapes {launch : Launch} {fault : Fault} {command : List String}
    (escapes : launch.Escapes fault (command ++ (supervisor.plan.resolve state.attempt).flags)
      supervisor.secret) :
    (supervisor.round command state launch).result = .error fault := by
  simp only [round, escapes.result, settle, Run.fail]

/-- Exactly when a launch that fails with a stream fault leaves no half-started child and no dead
supervisor behind: if the start itself was refused, or if the fault is one of input or output. With
any other one the child stays as it is, and the supervision ends. -/
theorem recovers_iff_handled {launch : Launch} {fault : Fault}
    (failed : launch.fault? = some fault) (stream : fault.isStream = true) :
    (∀ command secret, launch.FailsCleanly command secret ↔
      launch = .refused fault ∨ fault.isSystem = true) ∧
    (∀ (supervisor : Supervisor) (flush last now : Int) (state : State) (command : List String),
      supervisor.Steady flush → state.At last now →
      (supervisor.Recovers command state launch ↔
        launch = .refused fault ∨ fault.isSystem = true)) ∧
    (¬(launch = .refused fault ∨ fault.isSystem = true) →
      (∀ command secret, launch.Escapes fault command secret) ∧
      ∀ (supervisor : Supervisor) (state : State) (command : List String),
        (supervisor.round command state launch).result = .error fault) := by
  refine ⟨?_, ?_, ?_⟩
  · intro command secret
    constructor
    · intro clean
      apply Classical.byContradiction
      intro unhandled
      exact (Launch.escapes_of_unhandled failed unhandled command secret).not_failsCleanly clean
    · intro handled
      exact Launch.failsCleanly_of_handled failed stream handled command secret
  · intro supervisor flush last now state command steady timed
    constructor
    · intro recovers
      apply Classical.byContradiction
      intro unhandled
      have ended : (supervisor.round command state launch).result = .error fault :=
        round_of_escapes (Launch.escapes_of_unhandled failed unhandled _ _)
      rw [recovers.returns] at ended
      cases ended
    · intro handled
      exact recovers_of_failsCleanly steady timed
        (Launch.failsCleanly_of_handled failed stream handled _ _)
  · intro unhandled
    exact ⟨Launch.escapes_of_unhandled failed unhandled, fun supervisor state command =>
      round_of_escapes (Launch.escapes_of_unhandled failed unhandled _ _)⟩

theorem recovers_broken_pipe :
    let launch := Launch.started { pid := 101, closeFault := some ⟨.brokenPipe, "gone"⟩ }
    launch.FailsCleanly ["warden"] "secret" ∧
      ∃ state, begin? 4096 (.whole 5) = some state ∧ small.Recovers ["warden"] state launch := by
  intro launch
  have failed : launch.fault? = some ⟨.brokenPipe, "gone"⟩ := rfl
  obtain ⟨clean, goesOn, _⟩ := recovers_iff_handled failed rfl
  obtain ⟨state, begun⟩ : ∃ state, begin? 4096 (.whole 5) = some state := ⟨_, rfl⟩
  refine ⟨(clean _ _).mpr (.inr rfl), state, begun, ?_⟩
  exact (goesOn small 1 5 5 state _ small_steady (State.At.of_begin? begun)).mpr (.inr rfl)

/-- A child whose input is closed already when the secret is written: nobody kills it, and the fault
gets through. -/
theorem not_failsCleanly_closed_input :
    let fault : Fault := ⟨.badValue, "write to closed file"⟩
    let launch := Launch.started { pid := 101, writeFault := some fault }
    launch.fault? = some fault ∧ fault.isStream = true ∧
      launch.perform ["prog", "-x"] "s3cret" =
        ⟨[.launch ["prog", "-x"], .handOver (Secret.handOver "s3cret")],
          .error (.unhandled fault)⟩ ∧
      ¬launch.FailsCleanly ["prog", "-x"] "s3cret" := by
  intro fault launch
  have escapes : launch.Escapes fault ["prog", "-x"] "s3cret" :=
    Launch.escapes_started rfl rfl _ _
  exact ⟨rfl, rfl, rfl, escapes.not_failsCleanly⟩

end Supervisor

end Warden
