import Warden.Proofs.Delivery
import Warden.Proofs.OutputHistory
import Warden.Proofs.Supervision

/-!
Each report is about its own launch. The flags, the cause and the process number in a report are
those of the launch that the report follows, and its output is the latest of all that the children
up to this one gave, with those that were killed among them.
-/

namespace Warden

inductive Pipe
  | output
  | errors

def Child.stream (child : Child) : Pipe → Stream
  | .output => child.output
  | .errors => child.errors

namespace FailureReport

def latest (report : FailureReport) : Pipe → String
  | .output => report.output
  | .errors => report.errors

/-- The template of the reports, filled in line by line. -/
def lines (report : FailureReport) : List String :=
  let figures := report.figures
  let words (known : Option String) := known.getD "unknown"
  let amount (known : Option Int) := (known.map toString).getD "?"
  let processors := (figures.processors.map toString).getD "None"
  ["Failure: " ++ report.cause, "CLI flags: " ++ " ".intercalate report.flags] ++
    (report.pid.map fun pid => s!"Main program PID: {pid}").toList ++
    ["", "Clock: " ++ figures.clock,
      s!"Sys/prog uptime: {words figures.systemUptime} / {words figures.processUptime}",
      s!"Total/used/prog mem: {amount figures.totalMemory} / {amount figures.usedMemory} / " ++
        s!"{amount figures.processMemory} MB",
      "Sys load: " ++ words figures.load,
      s!"Num CPU/threads: {processors} / {figures.threads}"] ++
    ["", "Latest stdout: " ++ report.latest .output, "",
      "Latest stderr: " ++ report.latest .errors, ""]

theorem text_eq {report : FailureReport} (numbered : report.pid ≠ some 0) :
    report.text = "\n".intercalate report.lines := by
  have blank : "\n\n" = "\n" ++ "\n" := rfl
  have megabytes : " MB\n" = " MB" ++ "\n" := rfl
  have named : pidLine report.pid =
      (report.pid.map fun pid => s!"Main program PID: {pid}\n").getD "" := by
    cases known : report.pid with
    | none => rfl
    | some pid =>
        have other : pid ≠ 0 := fun zero => numbered (by rw [known, zero])
        rw [pidLine, if_neg other]
        rfl
  delta FailureReport.text FailureReport.lines
  rw [named]
  cases report.pid <;>
    simp only [latest, orUnknown, orMark, blank, megabytes, Option.map_none, Option.map_some,
      Option.getD_none, Option.getD_some, Option.toList_none, Option.toList_some, List.cons_append,
      List.nil_append, List.append_nil, String.intercalate_cons_cons, String.intercalate_singleton,
      String.append_assoc, String.append_empty, String.empty_append, toString,
      -String.reduceAppend]

end FailureReport

namespace Launch

def given (pipe : Pipe) (launches : List Launch) : List UInt8 :=
  launches.flatMap fun
    | .refused _ => []
    | .started child => (child.stream pipe).given

theorem given_append (pipe : Pipe) (front back : List Launch) :
    given pipe (front ++ back) = given pipe front ++ given pipe back :=
  List.flatMap_append

theorem eq_started {launch : Launch} {child : Child} (ran : launch.outcome = .ok child) :
    launch = .started child := by
  cases launch with
  | refused fault => cases ran
  | started other =>
      cases broken : other.fault? with
      | none =>
          simp only [outcome, broken] at ran
          exact congrArg started (Except.ok.inj ran)
      | some fault =>
          simp only [outcome, broken] at ran
          cases ran

theorem goneAt?_eq (launch : Launch) (now : Number) :
    launch.goneAt? now =
      match launch.outcome with
      | .ok child => now.add? child.runtime
      | .error _ => some now := by
  cases launch with
  | refused fault => rfl
  | started child =>
      simp only [goneAt?, outcome]
      cases child.fault? <;> rfl

end Launch

namespace MailClient

theorem reached_subset (host : Host) (steps : List (MailStage × MailStep)) :
    reached host steps ⊆ steps.map Prod.snd := by
  induction steps with
  | nil => exact List.Subset.refl _
  | cons step rest ih =>
      obtain ⟨stage, said⟩ := step
      rw [reached, List.map_cons]
      refine List.cons_subset_cons said ?_
      split
      · exact List.nil_subset _
      · exact ih

theorem eq_of_send_mem {client : MailClient} {host : Host} {mail sent : Mail}
    (sends : .send sent ∈ mailSteps (client.deliver host mail).events) : sent = mail := by
  rw [Notifier.mailSteps_deliver, List.mem_append] at sends
  have said : MailStep.send sent ∈ (client.steps mail).map Prod.snd := by
    rcases sends with taken | closing
    · exact reached_subset host _ taken
    · split at closing
      · cases closing
      · simp at closing
  obtain ⟨step, member, same⟩ := List.mem_map.mp said
  rcases List.mem_append.mp member with early | last
  · exact absurd ⟨sent, same⟩ (client.approach_silent step early)
  · obtain rfl := List.mem_singleton.mp last
    exact (MailStep.send.inj same).symm

end MailClient

namespace Notifier

variable {notifier : Notifier} {host : Host} {now : Number} {failure : Failure}

theorem body_of_send_mem {mail : Mail}
    (sends : .send mail ∈ mailSteps (notifier.notify host now failure).events) :
    ∃ figures, (Figures.collect host now).result = .ok figures ∧
      mail.body = Text.mailBody
        (FailureReport.lint (failure.report figures).text notifier.maxReportBytes) := by
  cases found : notifier.client? with
  | none => simp [notify, found, mailSteps, Event.mailStep?] at sends
  | some client =>
      rw [(notify_of_client found host now failure).1] at sends
      rcases notifier.mailReport_cases client host now failure with
        ⟨silent, _⟩ | ⟨body, composed, described, _, words, said, _⟩
      · rw [silent] at sends
        cases sends
      · rw [said] at sends
        obtain rfl := MailClient.eq_of_send_mem sends
        obtain ⟨figures, collected, rfl⟩ := report_eq_ok.mp described
        exact ⟨figures, collected, words⟩

end Notifier

namespace Supervisor

variable {supervisor : Supervisor} {state : State} {step : MailStep}

def State.log (state : State) : Pipe → ByteLog
  | .output => state.output
  | .errors => state.errors

def State.failure (state : State) (flags : List String) : Except Launch.Problem Child → Failure
  | .ok child =>
      ⟨flags, Child.exitMessage child.status, some child.pid, state.output, state.errors⟩
  | .error problem => ⟨flags, problem.message, none, state.output, state.errors⟩

section Mail

theorem mailSteps_pass_andThen {seconds : Number} {event : Event} {next : State → Step}
    (silent : event.mailStep? = none)
    (member : step ∈ mailSteps ((state.pass seconds event).andThen next).run.events) :
    ∃ now, state.now.add? seconds = some now ∧
      step ∈ mailSteps (next { state with now }).run.events := by
  cases added : state.now.add? seconds with
  | none => simp [State.pass, added, Step.andThen, mailSteps, silent] at member
  | some now =>
      refine ⟨now, rfl, ?_⟩
      simpa [State.pass, added, Step.andThen, Run.emit, mailSteps, silent] using member

theorem mailSteps_andThen {first : Step} {next : State → Step}
    (silent : ∀ state, mailSteps (next state).run.events = []) :
    mailSteps (first.andThen next).run.events = mailSteps first.run.events := by
  unfold Step.andThen
  split
  · rw [mailSteps_append, silent, List.append_nil]
  · rfl

theorem mailSteps_sleep (state : State) (seconds : Number) :
    mailSteps (state.sleep seconds).run.events = [] :=
  mailSteps_of_silent (state.pass_every seconds rfl)

theorem mailSteps_judge (supervisor : Supervisor) (state : State) :
    mailSteps (supervisor.judge state).run.events = [] := by
  unfold judge
  split <;> rfl

theorem send_of_handle {flags : List String} {cause : String} {pid : Option Int}
    (member : step ∈ mailSteps (supervisor.handle state flags cause pid).run.events) :
    ∃ moment, state.now.add? supervisor.flushDelay = some moment ∧
      step ∈ mailSteps (supervisor.notifier.notify supervisor.host moment
        ⟨flags, cause, pid, state.output, state.errors⟩).events := by
  rw [handle, mailSteps_andThen fun judged => mailSteps_sleep judged _,
    mailSteps_andThen supervisor.mailSteps_judge] at member
  exact mailSteps_pass_andThen rfl member

theorem send_of_settle {flags : List String} {launch : Launch}
    (member : step ∈ mailSteps (supervisor.settle state flags launch.outcome).run.events) :
    ∃ gone moment, launch.goneAt? state.now = some gone ∧
      gone.add? supervisor.flushDelay = some moment ∧
      step ∈ mailSteps (supervisor.notifier.notify supervisor.host moment
        (state.failure flags launch.outcome)).events := by
  rw [Launch.goneAt?_eq]
  cases ended : launch.outcome with
  | ok child =>
      rw [ended, settle] at member
      obtain ⟨gone, told, later⟩ := mailSteps_pass_andThen rfl member
      obtain ⟨moment, waited, said⟩ := send_of_handle later
      exact ⟨gone, moment, told, waited, said⟩
  | error problem =>
      rw [ended] at member
      cases reported : problem.isReported with
      | false =>
          cases problem <;> cases reported
          cases member
      | true =>
          rw [settle_reported supervisor state flags reported] at member
          obtain ⟨moment, waited, said⟩ := send_of_handle member
          exact ⟨state.now, moment, rfl, waited, said⟩

theorem send_of_round {command : List String} {launch : Launch}
    (member : step ∈ mailSteps (supervisor.round command state launch).events) :
    ∃ gone moment, launch.goneAt? state.now = some gone ∧
      gone.add? supervisor.flushDelay = some moment ∧
      step ∈ mailSteps (supervisor.notifier.notify supervisor.host moment
        ((state.afterLaunch launch).failure (supervisor.plan.resolve state.attempt).flags
          launch.outcome)).events := by
  let flags := (supervisor.plan.resolve state.attempt).flags
  have launched : mailSteps (launch.perform (command ++ flags) supervisor.secret).events = [] := by
    rw [mailSteps, Launch.filterMap_perform (fun _ _ => rfl) rfl rfl rfl]
    cases launch <;> rfl
  have ended : (launch.perform (command ++ flags) supervisor.secret).result = launch.outcome := by
    rw [Launch.perform_eq]
  have events : (supervisor.round command state launch).events =
      [announcement state flags] ++ (launch.perform (command ++ flags) supervisor.secret).events ++
        (supervisor.settle (state.afterLaunch launch) flags launch.outcome).run.events := by
    rw [← ended]
    rfl
  have announced : mailSteps [announcement state flags] = [] := rfl
  rw [events, mailSteps_append, mailSteps_append, announced, launched, List.nil_append,
    List.nil_append] at member
  have clock : (state.afterLaunch launch).now = state.now := rfl
  have told := send_of_settle member
  rwa [clock] at told

end Mail

section Logs

theorem Step.log_andThen {first : Step} {next : State → Step}
    (kept : ∀ state, (next state).after.log = state.log) :
    (first.andThen next).after.log = first.after.log := by
  unfold Step.andThen
  split
  · exact kept _
  · rfl

theorem log_pass (state : State) (seconds : Number) (event : Event) :
    (state.pass seconds event).after.log = state.log := by
  unfold State.pass
  split <;> rfl

theorem log_sleep (state : State) (seconds : Number) :
    (state.sleep seconds).after.log = state.log :=
  log_pass state seconds _

theorem log_judge (supervisor : Supervisor) (state : State) :
    (supervisor.judge state).after.log = state.log := by
  unfold judge
  split <;> rfl

theorem log_handle (supervisor : Supervisor) (state : State) (flags : List String)
    (cause : String) (pid : Option Int) :
    (supervisor.handle state flags cause pid).after.log = state.log := by
  rw [handle, Step.log_andThen fun judged => log_sleep judged _,
    Step.log_andThen supervisor.log_judge, Step.log_andThen fun _ => rfl]
  exact log_sleep state _

theorem log_settle (supervisor : Supervisor) (state : State) (flags : List String)
    (launched : Except Launch.Problem Child) :
    (supervisor.settle state flags launched).after.log = state.log := by
  unfold settle
  split
  next child =>
    have awaited : (state.await child).after.log = state.log := log_pass _ _ _
    have handled (after : State) (cause : String) (pid : Option Int) :
        ((supervisor.handle after flags cause pid).precededBy (ended after cause)).after.log =
          after.log := log_handle supervisor after flags cause pid
    exact (Step.log_andThen fun after => handled after _ _).trans awaited
  next => rfl
  next => exact log_handle supervisor state flags _ _

theorem log_round (supervisor : Supervisor) (command : List String) (state : State)
    (launch : Launch) :
    (supervisor.round command state launch).after.log = (state.afterLaunch launch).log :=
  log_settle supervisor _ _ _

def State.Sound (state : State) : Prop :=
  ∀ pipe, (state.log pipe).Fits ∧ (state.log pipe).Tolerable

theorem log_afterLaunch (sound : state.Sound) (launch : Launch) (pipe : Pipe) :
    (state.afterLaunch launch).log pipe = (state.log pipe).extend (Launch.given pipe [launch]) := by
  obtain ⟨fits, tolerable⟩ := sound pipe
  cases launch with
  | refused fault =>
      rw [show Launch.given pipe [.refused fault] = [] from rfl, ByteLog.extend_nil fits]
      cases pipe <;> rfl
  | started child =>
      have pumped := (ByteLog.pump_eq fits tolerable (child.stream pipe)).1
      rw [Launch.given, List.flatMap_singleton, ← pumped]
      cases pipe <;> rfl

theorem sound_round (sound : state.Sound) (command : List String) (launch : Launch) :
    (supervisor.round command state launch).after.Sound := by
  intro pipe
  rw [log_round, log_afterLaunch sound]
  exact ⟨ByteLog.fits_extend _ _, ByteLog.tolerable_extend (sound pipe).2 _⟩

theorem round_of_rounds (sound : state.Sound) {command : List String} {launches : List Launch}
    {index : Nat} {round : Round}
    (found : (supervisor.rounds command state launches)[index]? = some round) :
    ∃ launch, launches[index]? = some launch ∧
      round = supervisor.round command round.before launch ∧ round.before.Sound ∧
      ∀ pipe, round.before.log pipe =
        (state.log pipe).extend (Launch.given pipe (launches.take index)) := by
  -- Each round goes on from the logs that the one before it left behind.
  induction launches generalizing state index with
  | nil => cases found
  | cons launch rest ih =>
      cases index with
      | zero =>
          have first : supervisor.round command state launch = round := by
            rw [rounds_cons] at found
            split at found <;> exact Option.some.inj found
          subst first
          exact ⟨launch, rfl, rfl, sound, fun pipe => (ByteLog.extend_nil (sound pipe).1).symm⟩
      | succ index =>
          rw [rounds_cons] at found
          split at found
          · cases found
          · obtain ⟨own, there, made, fine, logs⟩ := ih (sound_round sound command launch) found
            refine ⟨own, there, made, fine, fun pipe => ?_⟩
            rw [logs, log_round, log_afterLaunch sound, ByteLog.extend_extend, List.take_succ_cons,
              ← Launch.given_append, List.singleton_append]

end Logs

theorem launched?_round (supervisor : Supervisor) (command : List String) (state : State)
    (launch : Launch) :
    let round := supervisor.round command state launch
    round.events.filterMap Event.launched? = [round.command] := by
  have alone (event : Event) (childless : event.isChildless = true) : event.launched? = none := by
    cases event <;> simp_all [Event.isChildless, Event.launched?]
  have quiet (state : State) (flags : List String) (launched : Except Launch.Problem Child) :
      (supervisor.settle state flags launched).run.events.filterMap Event.launched? = [] :=
    List.filterMap_eq_nil_iff.mpr (settle_every alone rfl supervisor state flags launched)
  have announced (flags : List String) : (announcement state flags).launched? = none := rfl
  simp only [round, List.filterMap_append, List.filterMap_cons, announced,
    Launch.launched?_perform, quiet, List.append_nil]

/-- A report on a round and its launch, which comes after some other ones. It holds a program number
exactly if the launch went well. -/
structure Describes (supervisor : Supervisor) (report : FailureReport) (round : Round)
    (launch : Launch) (earlier : List Launch) (capacity : Nat) : Prop where
  flags : ∃ command, supervisor.host.command? = some command ∧
    round.events.filterMap Event.launched? = [command ++ report.flags]
  ended : ∀ child, (launch.perform round.command supervisor.secret).result = .ok child →
    report.cause = Child.exitMessage child.status ∧ report.pid = some child.pid
  failed : ∀ problem, (launch.perform round.command supervisor.secret).result = .error problem →
    report.cause = problem.message ∧ report.pid = none
  figures : ∃ gone moment, launch.goneAt? round.before.now = some gone ∧
    gone.add? supervisor.flushDelay = some moment ∧
    (Figures.collect supervisor.host moment).result = .ok report.figures
  latest : ∀ pipe, report.latest pipe =
    Text.Utf8.decodeReplacing ((Launch.given pipe (earlier ++ [launch])).rtake capacity)

theorem describes_of_round {command : List String} {launch : Launch} {earlier : List Launch}
    {capacity : Nat} {gone moment : Number} {figures : Figures}
    (found : supervisor.host.command? = some command)
    (told : launch.goneAt? state.now = some gone)
    (waited : gone.add? supervisor.flushDelay = some moment)
    (collected : (Figures.collect supervisor.host moment).result = .ok figures)
    (retained : ∀ pipe, ((state.afterLaunch launch).log pipe).retained =
      (Launch.given pipe (earlier ++ [launch])).rtake capacity) :
    let flags := (supervisor.plan.resolve state.attempt).flags
    supervisor.Describes
      (((state.afterLaunch launch).failure flags launch.outcome).report figures)
      (supervisor.round command state launch) launch earlier capacity := by
  intro flags
  constructor
  · refine ⟨command, found, ?_⟩
    rw [launched?_round]
    cases launch.outcome <;> rfl
  · intro child ran
    have outcome : launch.outcome = .ok child := by rwa [Launch.perform_eq] at ran
    rw [outcome]
    exact ⟨rfl, rfl⟩
  · intro problem failed
    have outcome : launch.outcome = .error problem := by rwa [Launch.perform_eq] at failed
    rw [outcome]
    exact ⟨rfl, rfl⟩
  · refine ⟨gone, moment, told, waited, ?_⟩
    rw [collected]
    cases launch.outcome <;> rfl
  · intro pipe
    rw [← retained pipe]
    cases launch.outcome <;> cases pipe <;> rfl

theorem Describes.pid_ne_zero {report : FailureReport} {round : Round} {launch : Launch}
    {earlier : List Launch} {capacity : Nat}
    (described : supervisor.Describes report round launch earlier capacity)
    (numbered : ∀ child, launch = .started child → 0 < child.pid) : report.pid ≠ some 0 := by
  cases ran : (launch.perform round.command supervisor.secret).result with
  | error problem =>
      rw [(described.failed problem ran).2]
      exact Option.some_ne_none 0 |>.symm
  | ok child =>
      rw [(described.ended child ran).2]
      rw [Launch.perform_eq] at ran
      have positive := numbered child (Launch.eq_started ran)
      exact fun zero => Int.ne_of_gt positive (Option.some.inj zero)

end Supervisor

end Warden
