import Warden.Proofs.HeaderLines
import Warden.Report.Notifier

/-!
What a notification does at most. It leaves only records, look-ups and mail steps behind, and it
fails with no fault but one that the host answered with. All of these are handled on the way up to
the notifier, interrupts apart, so a notifier on a host without interrupts always returns.
-/

namespace Warden

def Event.isReporting : Event → Bool
  | .log _ _ | .lookUp _ | .mail _ => true
  | _ => false

namespace Run

variable {ε φ α β : Type}

structure Bounded (usual : Event → Prop) (allowed : ε → Prop) (run : Run ε α) : Prop where
  events : ∀ event ∈ run.events, usual event
  failure : ∀ failure, run.result = .error failure → allowed failure

variable {usual : Event → Prop} {allowed : ε → Prop}

theorem bounded_ok (events : List Event) (value : α) (fit : ∀ event ∈ events, usual event) :
    (⟨events, .ok value⟩ : Run ε α).Bounded usual allowed :=
  ⟨fit, fun _ failed => by cases failed⟩

theorem bounded_error (events : List Event) {failure : ε} (fit : ∀ event ∈ events, usual event)
    (fits : allowed failure) : (⟨events, .error failure⟩ : Run ε α).Bounded usual allowed :=
  ⟨fit, fun _ failed => by cases failed; exact fits⟩

theorem bounded_pure (value : α) : (pure value : Run ε α).Bounded usual allowed :=
  bounded_ok [] value (by simp)

theorem Bounded.bind {run : Run ε α} {next : α → Run ε β} (first : run.Bounded usual allowed)
    (second : ∀ value, (next value).Bounded usual allowed) :
    (run >>= next).Bounded usual allowed := by
  change (run.andThen next).Bounded usual allowed
  cases ending : run.result with
  | ok value =>
      rw [andThen_of_ok next ending]
      refine ⟨?_, (second value).failure⟩
      intro event member
      rcases List.mem_append.mp member with early | late
      · exact first.events event early
      · exact (second value).events event late
  | error failure =>
      rw [andThen_of_error next ending]
      exact bounded_error _ first.events (first.failure failure ending)

theorem mapFailure_of_ok {run : Run ε α} {value : α} (change : ε → φ)
    (succeeded : run.result = .ok value) : run.mapFailure change = ⟨run.events, .ok value⟩ := by
  rw [mapFailure, succeeded]
  rfl

theorem mapFailure_of_error {run : Run ε α} {failure : ε} (change : ε → φ)
    (failed : run.result = .error failure) :
    run.mapFailure change = ⟨run.events, .error (change failure)⟩ := by
  rw [mapFailure, failed]
  rfl

theorem Bounded.mapFailure {wanted : φ → Prop} {change : ε → φ} {run : Run ε α}
    (before : run.Bounded usual allowed)
    (keeps : ∀ failure, allowed failure → wanted (change failure)) :
    (run.mapFailure change).Bounded usual wanted := by
  cases ending : run.result with
  | ok value =>
      rw [mapFailure_of_ok change ending]
      exact bounded_ok _ value before.events
  | error failure =>
      rw [mapFailure_of_error change ending]
      exact bounded_error _ before.events (keeps failure (before.failure failure ending))

theorem Bounded.followedBy {run : Run ε α} (before : run.Bounded usual allowed)
    {events : List Event} (fit : ∀ event ∈ events, usual event) :
    (run.followedBy events).Bounded usual allowed := by
  refine ⟨?_, before.failure⟩
  intro event member
  rcases List.mem_append.mp member with early | late
  · exact before.events event early
  · exact fit event late

end Run

/-- Every fault that the host answers with is an allowed one. -/
structure Host.Answers (host : Host) (allowed : Fault → Prop) : Prop where
  lookup : ∀ fault, host.lookup = .error fault → allowed fault
  mail : ∀ stage fault, host.mailFailure = some (stage, fault) → allowed fault
  process : ∀ fault, host.process = some fault → allowed fault
  memory : ∀ fault, host.memory = .error fault → allowed fault
  load : ∀ fault, host.load = .error fault → allowed fault
  bootTime : ∀ fault, host.bootTime = .error fault → allowed fault
  startTime : ∀ fault, host.startTime = .error fault → allowed fault
  residentBytes : ∀ fault, host.residentBytes = .error fault → allowed fault
  processors : ∀ fault, host.processors = .error fault → allowed fault

theorem Host.answers_any (host : Host) : host.Answers fun _ => True := by
  constructor <;> simp

abbrev Host.Ordinary (host : Host) : Prop :=
  host.Answers fun fault => fault.isOrdinary = true

def Host.quiet : Host where
  name := "host.example"
  executable := some "/usr/bin/warden"
  lookup := .ok ⟨404, ""⟩
  mailFailure := none
  process := none
  memory := .ok none
  load := .ok []
  bootTime := .ok (.whole 0)
  startTime := .ok (.whole 0)
  residentBytes := .ok 0
  processors := .ok none
  fallbackCount := none
  threads := 1

theorem Host.quiet_ordinary : Host.quiet.Ordinary := by
  constructor <;> simp [Host.quiet]

variable {host : Host} {usual : Event → Prop} {allowed : Fault → Prop}

theorem publicAddress_bounded (logs : ∀ level message, usual (.log level message))
    (lookUps : ∀ url, usual (.lookUp url)) (answers : host.Answers allowed) (url : String) :
    (publicAddress host url).Bounded usual allowed := by
  have asks : ∀ event ∈ [Event.lookUp url], usual event := by simp [lookUps]
  have records (reason : String) : ∀ event ∈ [.lookUp url, failedLookup reason], usual event := by
    simp [lookUps, failedLookup, logs]
  unfold publicAddress
  split
  · exact Run.bounded_pure _
  · split
    next reply _ =>
      split
      · exact Run.bounded_ok _ _ asks
      · split
        · exact Run.bounded_ok _ _ asks
        · exact Run.bounded_ok _ _ (records _)
    next fault answer =>
      split
      · exact Run.bounded_ok _ _ (records _)
      · exact Run.bounded_error _ asks (answers.lookup fault answer)

namespace Figures

def Problem.Within (allowed : Fault → Prop) : Problem → Prop
  | .fault cause => allowed cause
  | _ => True

theorem ifAvailable_bounded {α : Type} (logs : ∀ level message, usual (.log level message))
    (name : String) {answer : Except Fault α}
    (answers : ∀ fault, answer = .error fault → allowed fault) :
    (ifAvailable name answer).Bounded usual (Problem.Within allowed) := by
  cases answer with
  | ok value => exact Run.bounded_pure _
  | error fault =>
      simp only [ifAvailable]
      split
      · exact Run.bounded_ok _ _ (by simp [logs])
      · exact Run.bounded_error [] (by simp) (answers fault rfl)

theorem ofExcept_bounded {φ α : Type} (change : φ → Problem) {answer : Except φ α}
    (fits : ∀ failure, answer = .error failure → (change failure).Within allowed) :
    (Run.ofExcept (answer.mapError change)).Bounded usual (Problem.Within allowed) := by
  cases answer with
  | ok value => exact Run.bounded_ok [] value (by simp)
  | error failure => exact Run.bounded_error [] (by simp) (fits failure rfl)

theorem uptime_bounded (now : Number) (start : Option Number) :
    (uptime now start).Bounded usual (Problem.Within allowed) := by
  cases start with
  | none => exact Run.bounded_pure _
  | some start =>
      simp only [uptime]
      split
      · exact ofExcept_bounded .uptime fun _ _ => trivial
      · exact Run.bounded_error [] (by simp) trivial

theorem loadText_bounded (loads : Option (List Number)) :
    (loadText loads).Bounded usual (Problem.Within allowed) := by
  unfold loadText
  split
  · exact Run.bounded_pure _
  · exact Run.bounded_pure _
  · split
    · exact Run.bounded_pure _
    · exact Run.bounded_error [] (by simp) trivial

theorem collect_bounded (logs : ∀ level message, usual (.log level message))
    (answers : host.Answers allowed) (now : Number) :
    (collect host now).Bounded usual (Problem.Within allowed) := by
  unfold collect
  dsimp only
  split
  next fault asked => exact Run.bounded_error [] (by simp) (answers.process fault asked)
  refine (ifAvailable_bounded logs "memory" answers.memory).bind fun memory => ?_
  refine (ifAvailable_bounded logs "load" answers.load).bind fun loads => ?_
  refine (ofExcept_bounded .clock fun _ _ => trivial).bind fun clock => ?_
  refine ((ifAvailable_bounded logs "system_uptime" answers.bootTime).bind
    (uptime_bounded now)).bind fun systemUptime => ?_
  refine ((ifAvailable_bounded logs "process_uptime" answers.startTime).bind
    (uptime_bounded now)).bind fun processUptime => ?_
  refine (ifAvailable_bounded logs "process_memory" answers.residentBytes).bind
    fun processMemory => ?_
  refine (loadText_bounded loads).bind fun load => ?_
  refine (ofExcept_bounded .fault answers.processors).bind fun processors => ?_
  exact Run.bounded_pure _

end Figures

namespace MailClient

def Problem.Within (allowed : Fault → Prop) : Problem → Prop
  | .fault cause => allowed cause
  | _ => True

theorem perform_bounded (mails : ∀ step, usual (.mail step)) (answers : host.Answers allowed)
    (stage : MailStage) (step : MailStep) :
    (perform host stage step).Bounded usual (Problem.Within allowed) := by
  have said : ∀ event ∈ [Event.mail step], usual event := by simp [mails]
  unfold perform
  split
  next failing fault answer =>
    split
    · exact Run.bounded_error _ said (answers.mail failing fault answer)
    · exact Run.bounded_ok _ _ said
  next => exact Run.bounded_ok _ _ said

theorem converse_bounded (mails : ∀ step, usual (.mail step)) (answers : host.Answers allowed)
    (client : MailClient) (mail : Mail) :
    (client.converse host mail).Bounded usual (Problem.Within allowed) := by
  have sends := perform_bounded mails answers .send (.send mail)
  have logsIn (username : String) := (perform_bounded mails answers .login
    (.login username client.password)).bind fun _ => sends
  unfold converse
  dsimp only
  split
  · refine (perform_bounded mails answers .startTls .startTls).bind fun _ => ?_
    split
    · exact logsIn _
    · exact sends
  · split
    · exact logsIn _
    · exact sends

theorem titleLine_within {text : String} {problem : Problem}
    (failed : headerLine titleText text = .error problem) : problem.Within allowed := by
  obtain ⟨_, rfl⟩ | ⟨_, unread⟩ := headerLine_eq_error.mp failed
  · trivial
  · rw [titleText] at unread
    cases decoded : Text.decodedHeader text with
    | ok title => rw [decoded] at unread; cases unread
    | error run => rw [decoded] at unread; cases unread; trivial

theorem addressLine_within {text : String} {problem : Problem}
    (failed : headerLine addressText text = .error problem) : problem.Within allowed := by
  obtain ⟨_, rfl⟩ | ⟨_, unread⟩ := headerLine_eq_error.mp failed
  · trivial
  · simp only [addressText, bind, Except.bind] at unread
    cases decoded : AddressHeader.decoded text with
    | error cause => rw [decoded] at unread; cases unread; trivial
    | ok symbols =>
        simp only [decoded, Except.mapError] at unread
        cases read : Text.Symbol.text symbols with
        | ok said => rw [read] at unread; cases unread
        | error run => rw [read] at unread; cases unread; trivial

theorem compose_within {client : MailClient} {subject body : Option String}
    {recipients : List String} {problem : Problem}
    (failed : client.compose subject body recipients = .error problem) :
    problem.Within allowed := by
  by_cases nobody : recipients = []
  · rw [nobody, compose_nil] at failed
    cases failed
    trivial
  rw [compose_of_somebody client subject body nobody] at failed
  cases titled : headerLine titleText (subject.getD "") with
  | error cause => rw [titled] at failed; cases failed; exact titleLine_within titled
  | ok title =>
      cases sent : headerLine addressText (client.sender.getD nothing) with
      | error cause => rw [titled, sent] at failed; cases failed; exact addressLine_within sent
      | ok sender =>
          cases addressed : headerLine addressText (", ".intercalate recipients) with
          | error cause =>
              rw [titled, sent, addressed] at failed
              cases failed
              exact addressLine_within addressed
          | ok receivers =>
              rw [titled, sent, addressed] at failed
              cases body <;> cases failed
              trivial

theorem compose_bounded (client : MailClient) (subject body : Option String)
    (recipients : List String) :
    (Run.ofExcept (client.compose subject body recipients)).Bounded usual
      (Problem.Within allowed) :=
  ⟨by simp [Run.ofExcept], fun _ failed => compose_within failed⟩

theorem send_bounded (logs : ∀ level message, usual (.log level message))
    (mails : ∀ step, usual (.mail step)) (answers : host.Answers allowed) (client : MailClient)
    (subject body : Option String) (recipients : List String) :
    (client.send host subject body recipients).Bounded usual (Problem.Within allowed) := by
  unfold send
  refine (compose_bounded client subject body recipients).bind fun mail => ?_
  have conversation : ((client.converse host mail).followedBy [.mail .quit]).Bounded usual
      (Problem.Within allowed) :=
    (converse_bounded mails answers client mail).followedBy (by simp [mails])
  have delivered : (client.deliver host mail).Bounded usual (Problem.Within allowed) :=
    (perform_bounded mails answers .connect _).bind fun _ => conversation
  exact delivered.bind fun _ => Run.bounded_ok _ _ (by simp [logs])

end MailClient

namespace Notifier

def Problem.Within (allowed : Fault → Prop) : Problem → Prop
  | .lookup fault => allowed fault
  | .figures problem => problem.Within allowed
  | .mail problem => problem.Within allowed

theorem Problem.interrupt?_eq_none {problem : Problem}
    (ordinary : problem.Within fun fault => fault.isOrdinary = true) :
    problem.interrupt? = none := by
  unfold interrupt?
  split <;> simp_all [Within, Figures.Problem.Within, MailClient.Problem.Within]

theorem report_bounded (logs : ∀ level message, usual (.log level message))
    (answers : host.Answers allowed) (notifier : Notifier) (now : Number) (failure : Failure) :
    (notifier.report host now failure).Bounded usual (Figures.Problem.Within allowed) :=
  (Figures.collect_bounded logs answers now).bind fun _ => Run.bounded_pure _

theorem mailReport_reporting (answers : host.Answers allowed) (notifier : Notifier)
    (client : MailClient) (now : Number) (failure : Failure) :
    (notifier.mailReport client host now failure).Bounded (·.isReporting = true)
      (Problem.Within allowed) := by
  have asks : ((publicAddress host notifier.publicAddressUrl).mapFailure Problem.lookup).Bounded
      (·.isReporting = true) (Problem.Within allowed) :=
    (publicAddress_bounded (fun _ _ => rfl) (fun _ => rfl) answers
      notifier.publicAddressUrl).mapFailure fun _ fits => fits
  have describes : ((notifier.report host now failure).mapFailure Problem.figures).Bounded
      (·.isReporting = true) (Problem.Within allowed) :=
    (report_bounded (fun _ _ => rfl) answers notifier now failure).mapFailure fun _ fits => fits
  refine asks.bind fun address => describes.bind fun body => ?_
  exact (MailClient.send_bounded (fun _ _ => rfl) (fun _ => rfl) answers client _ _ _).mapFailure
    fun _ fits => fits

theorem notify_returns (ordinary : host.Ordinary) (notifier : Notifier) (now : Number)
    (failure : Failure) : ∃ sent, (notifier.notify host now failure).result = .ok sent := by
  unfold notify
  split
  · exact ⟨false, rfl⟩
  next client _ =>
    have bounds := mailReport_reporting ordinary notifier client now failure
    dsimp only
    split
    · exact ⟨true, rfl⟩
    next problem ending =>
      simp only [Problem.interrupt?_eq_none (bounds.failure problem ending)]
      exact ⟨false, rfl⟩

theorem notify_reporting (notifier : Notifier) (host : Host) (now : Number) (failure : Failure) :
    ∀ event ∈ (notifier.notify host now failure).events, event.isReporting = true := by
  unfold notify
  split
  · simp [Event.isReporting]
  next client _ =>
    have bounds := mailReport_reporting host.answers_any notifier client now failure
    dsimp only
    split
    · exact bounds.events
    · split
      · exact bounds.events
      · intro event member
        rcases List.mem_append.mp member with early | late
        · exact bounds.events event early
        · simp_all [Event.isReporting]

end Notifier

end Warden
