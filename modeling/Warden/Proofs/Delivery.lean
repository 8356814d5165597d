import Warden.Proofs.Notification

/-!
What becomes of a report on its way to the mail server. The conversation with the server goes on up
to the first step that fails, and a connection that was made is closed again in any case. The
notifier says that a report was handed over exactly if the server took it, and then it took one mail
to all recipients over one connection.
-/

namespace Warden

def Event.mailStep? : Event → Option MailStep
  | .mail step => some step
  | _ => none

def mailSteps (events : List Event) : List MailStep :=
  events.filterMap Event.mailStep?

theorem mailSteps_append (front back : List Event) :
    mailSteps (front ++ back) = mailSteps front ++ mailSteps back :=
  List.filterMap_append

theorem mailSteps_map (steps : List MailStep) : mailSteps (steps.map Event.mail) = steps := by
  rw [mailSteps, List.filterMap_map]
  exact List.filterMap_some

theorem mailSteps_of_silent {events : List Event}
    (silent : ∀ event ∈ events, event.mailStep? = none) : mailSteps events = [] :=
  List.filterMap_eq_nil_iff.mpr silent

theorem mem_mailSteps {events : List Event} {step : MailStep} :
    step ∈ mailSteps events ↔ .mail step ∈ events := by
  rw [mailSteps, List.mem_filterMap]
  constructor
  · rintro ⟨event, member, found⟩
    cases event <;> cases found
    exact member
  · exact fun member => ⟨_, member, rfl⟩

def sentMails (events : List Event) : List Mail :=
  (mailSteps events).filterMap fun step =>
    match step with
    | .send mail => some mail
    | _ => none

theorem mem_sentMails {events : List Event} {mail : Mail} :
    mail ∈ sentMails events ↔ .mail (.send mail) ∈ events := by
  rw [← mem_mailSteps, sentMails, List.mem_filterMap]
  constructor
  · rintro ⟨step, member, found⟩
    cases step <;> cases found
    exact member
  · exact fun member => ⟨_, member, rfl⟩

def Host.mailFault? (host : Host) (stage : MailStage) : Option Fault :=
  match host.mailFailure with
  | some (failing, fault) => if failing = stage then some fault else none
  | none => none

namespace MailClient

variable {host : Host} {client : MailClient} {mail : Mail}

def greeting (client : MailClient) : List (MailStage × MailStep) :=
  (if client.useTls then [(.startTls, .startTls)] else []) ++
    match client.username.filter fun text => !text.isEmpty with
    | some username => [(.login, .login username client.password)]
    | none => []

def approach (client : MailClient) : List (MailStage × MailStep) :=
  (.connect, .connect client.host client.port client.timeout) :: client.greeting

def steps (client : MailClient) (mail : Mail) : List (MailStage × MailStep) :=
  client.approach ++ [(.send, .send mail)]

/-- The steps up to the first one that fails, which is still taken. -/
def reached (host : Host) : List (MailStage × MailStep) → List MailStep
  | [] => []
  | (stage, step) :: rest =>
      step :: if (host.mailFault? stage).isSome then [] else reached host rest

def firstFault? (host : Host) (steps : List (MailStage × MailStep)) : Option Fault :=
  steps.findSome? fun step => host.mailFault? step.1

def take (host : Host) : List (MailStage × MailStep) → Run Problem Unit
  | [] => pure ()
  | (stage, step) :: rest => perform host stage step >>= fun _ => take host rest

def outcome (host : Host) (steps : List (MailStage × MailStep)) : Except Problem Unit :=
  match firstFault? host steps with
  | none => .ok ()
  | some fault => .error (.fault fault)

theorem perform_eq (host : Host) (stage : MailStage) (step : MailStep) :
    perform host stage step = ⟨[.mail step],
      match host.mailFault? stage with
      | none => .ok ()
      | some fault => .error (.fault fault)⟩ := by
  unfold perform Host.mailFault?
  cases host.mailFailure with
  | none => rfl
  | some failure =>
      dsimp only
      split <;> rfl

theorem take_eq (host : Host) (steps : List (MailStage × MailStep)) :
    take host steps = ⟨(reached host steps).map .mail, outcome host steps⟩ := by
  induction steps with
  | nil => rfl
  | cons step rest ih =>
      obtain ⟨stage, said⟩ := step
      rw [take, perform_eq, ih]
      simp only [bind, Run.andThen, reached, outcome, firstFault?, List.findSome?_cons]
      cases host.mailFault? stage with
      | none => rfl
      | some fault => rfl

theorem converse_eq (client : MailClient) (host : Host) (mail : Mail) :
    client.converse host mail = take host (client.greeting ++ [(.send, .send mail)]) := by
  have sends : perform host .send (.send mail) = take host [(.send, .send mail)] := by
    rw [take_eq, perform_eq]
    simp only [reached, outcome, firstFault?, List.findSome?_cons, List.findSome?_nil]
    cases host.mailFault? .send <;> rfl
  unfold converse greeting
  dsimp only
  rw [sends]
  cases client.useTls <;> cases client.username.filter (fun text => !text.isEmpty) <;> rfl

theorem deliver_eq (client : MailClient) (host : Host) (mail : Mail) :
    client.deliver host mail =
      ⟨(reached host (client.steps mail) ++
          if (host.mailFault? .connect).isSome then [] else [MailStep.quit]).map Event.mail,
        outcome host (client.steps mail)⟩ := by
  rw [deliver, converse_eq, take_eq, perform_eq]
  simp only [steps, approach, List.cons_append, reached, outcome, firstFault?,
    List.findSome?_cons, bind, Run.andThen, Run.followedBy]
  cases host.mailFault? .connect with
  | none => simp
  | some fault => rfl

theorem reached_of_ok {steps : List (MailStage × MailStep)}
    (succeeded : outcome host steps = .ok ()) : reached host steps = steps.map Prod.snd := by
  induction steps with
  | nil => rfl
  | cons step rest ih =>
      obtain ⟨stage, said⟩ := step
      simp only [outcome, firstFault?, List.findSome?_cons] at succeeded
      cases failing : host.mailFault? stage with
      | none =>
          rw [failing] at succeeded
          simp only [reached, failing, Option.isSome_none, ih succeeded]
          rfl
      | some fault =>
          rw [failing] at succeeded
          cases succeeded

theorem mem_reached_append (kind : MailStep → Prop) {front : List (MailStage × MailStep)}
    {last : MailStage × MailStep} (others : ∀ step ∈ front, ¬kind step.2) (fits : kind last.2) :
    (∃ said ∈ reached host (front ++ [last]), kind said) ↔ firstFault? host front = none := by
  induction front with
  | nil => exact ⟨fun _ => rfl, fun _ => ⟨last.2, List.mem_cons_self, fits⟩⟩
  | cons step rest ih =>
      obtain ⟨stage, said⟩ := step
      obtain ⟨other, later⟩ := List.forall_mem_cons.mp others
      have skipped (heard : List MailStep) :
          (∃ found ∈ said :: heard, kind found) ↔ ∃ found ∈ heard, kind found := by
        simp [show ¬kind said from other]
      simp only [List.cons_append, reached, skipped, firstFault?, List.findSome?_cons]
      cases host.mailFault? stage with
      | none => exact ih later
      | some fault => simp

theorem approach_silent (client : MailClient) :
    ∀ step ∈ client.approach, ¬∃ sent, step.2 = .send sent := by
  unfold approach greeting
  split <;> split <;> simp

theorem send_mem_reached (client : MailClient) (host : Host) (mail : Mail) :
    (∃ sent, MailStep.send sent ∈ reached host (client.steps mail)) ↔
      firstFault? host client.approach = none := by
  have reach : (∃ said ∈ reached host (client.steps mail), ∃ sent, said = .send sent) ↔ _ :=
    mem_reached_append (fun said => ∃ sent, said = .send sent) client.approach_silent ⟨mail, rfl⟩
  rw [← reach]
  constructor
  · rintro ⟨sent, member⟩
    exact ⟨_, member, sent, rfl⟩
  · rintro ⟨_, member, sent, rfl⟩
    exact ⟨sent, member⟩

theorem outcome_eq_ok (client : MailClient) (host : Host) (mail : Mail) :
    outcome host (client.steps mail) = .ok () ↔
      firstFault? host client.approach = none ∧ host.mailFault? .send = none := by
  have whole : firstFault? host (client.steps mail) =
      (firstFault? host client.approach).or (host.mailFault? .send) := by
    simp only [steps, firstFault?, List.findSome?_append, List.findSome?_cons, List.findSome?_nil]
    cases host.mailFault? .send <;> rfl
  rw [outcome, whole]
  cases firstFault? host client.approach <;> cases host.mailFault? .send <;> simp

theorem send_of_broken {subject body : Option String} {recipients : List String}
    {problem : Problem} (broken : client.compose subject body recipients = .error problem) :
    client.send host subject body recipients = ⟨[], .error problem⟩ := by
  rw [send, broken]
  rfl

theorem send_of_composed {subject body : Option String} {recipients : List String}
    (composed : client.compose subject body recipients = .ok mail) :
    mailSteps (client.send host subject body recipients).events =
        mailSteps (client.deliver host mail).events ∧
      (client.send host subject body recipients).result = (client.deliver host mail).result := by
  rw [send, composed]
  simp only [Run.ofExcept, bind, Run.andThen, List.nil_append]
  cases ending : (client.deliver host mail).result with
  | ok value => simp [Run.log, Run.emit, mailSteps, Event.mailStep?]
  | error problem => simp

end MailClient

/-- A mail to some recipients: its line of recipients is what the line with all of them says. -/
def Mail.IsTo (mail : Mail) (recipients : List String) : Prop :=
  MailClient.headerLine MailClient.addressText (", ".intercalate recipients) = .ok mail.recipients

theorem Mail.IsTo.eq_of_plain {mail : Mail} {recipients : List String}
    (addressed : mail.IsTo recipients)
    (plain : ∀ recipient ∈ recipients, AddressHeader.isPlainAddress recipient = true) :
    mail.recipients = ", ".intercalate recipients := by
  rw [IsTo, MailClient.addressLine_of_plain plain] at addressed
  exact (Except.ok.inj addressed).symm

def Failure.report (failure : Failure) (figures : Figures) : FailureReport :=
  ⟨failure.cause, failure.flags, failure.pid, figures, failure.output.text, failure.errors.text⟩

namespace Notifier

variable {host : Host} {notifier : Notifier} {client : MailClient} {now : Number}
  {failure : Failure}

theorem lookUp_silent (host : Host) (url : String) :
    mailSteps (publicAddress host url).events = [] := by
  have bounds : (publicAddress host url).Bounded (·.mailStep? = none) fun _ => True :=
    publicAddress_bounded (fun _ _ => rfl) (fun _ => rfl) host.answers_any url
  exact mailSteps_of_silent bounds.events

theorem report_silent (notifier : Notifier) (host : Host) (now : Number) (failure : Failure) :
    mailSteps (notifier.report host now failure).events = [] := by
  have bounds : (notifier.report host now failure).Bounded (·.mailStep? = none)
      (Figures.Problem.Within fun _ => True) :=
    report_bounded (fun _ _ => rfl) host.answers_any notifier now failure
  exact mailSteps_of_silent bounds.events

theorem report_eq_ok {body : String} :
    (notifier.report host now failure).result = .ok body ↔
      ∃ figures, (Figures.collect host now).result = .ok figures ∧
        body = FailureReport.lint (failure.report figures).text notifier.maxReportBytes := by
  simp only [report, bind, Run.andThen, pure]
  cases (Figures.collect host now).result with
  | ok figures => simp [Failure.report, eq_comm]
  | error problem => simp

theorem mailReport_of_ok (client : MailClient) {address body : String}
    (asked : (publicAddress host notifier.publicAddressUrl).result = .ok address)
    (described : (notifier.report host now failure).result = .ok body) :
    let sent := client.send host (some (notifier.subject address)) (some body) notifier.recipients
    mailSteps (notifier.mailReport client host now failure).events = mailSteps sent.events ∧
      (notifier.mailReport client host now failure).result = sent.result.mapError .mail := by
  simp only [mailReport, bind, Run.andThen, Run.mapFailure_of_ok _ asked,
    Run.mapFailure_of_ok _ described, mailSteps_append, lookUp_silent, report_silent,
    List.nil_append]
  exact ⟨rfl, rfl⟩

theorem mailReport_cases (notifier : Notifier) (client : MailClient) (host : Host) (now : Number)
    (failure : Failure) :
    let run := notifier.mailReport client host now failure
    (mailSteps run.events = [] ∧ run.result ≠ .ok ()) ∨
      ∃ body mail, (notifier.report host now failure).result = .ok body ∧
        mail.IsTo notifier.recipients ∧ mail.body = Text.mailBody body ∧
        mailSteps run.events = mailSteps (client.deliver host mail).events ∧
        run.result = (client.deliver host mail).result.mapError .mail := by
  intro run
  cases asked : (publicAddress host notifier.publicAddressUrl).result with
  | error fault =>
      refine .inl ?_
      simp only [run, mailReport, bind, Run.andThen, Run.mapFailure_of_error _ asked,
        lookUp_silent]
      exact ⟨trivial, fun same => by cases same⟩
  | ok address =>
      cases described : (notifier.report host now failure).result with
      | error problem =>
          refine .inl ?_
          simp only [run, mailReport, bind, Run.andThen, Run.mapFailure_of_ok _ asked,
            Run.mapFailure_of_error _ described, mailSteps_append, lookUp_silent, report_silent]
          exact ⟨rfl, fun same => by cases same⟩
      | ok body =>
          obtain ⟨said, ended⟩ := mailReport_of_ok client asked described
          cases composed : client.compose (some (notifier.subject address)) (some body)
              notifier.recipients with
          | error problem =>
              rw [MailClient.send_of_broken composed] at said ended
              refine .inl ⟨said, ?_⟩
              rw [ended]
              exact fun same => by cases same
          | ok mail =>
              obtain ⟨delivered, result⟩ := MailClient.send_of_composed composed
              obtain ⟨_, _, _, receivers, words⟩ := MailClient.compose_eq_ok.mp composed
              refine .inr ⟨body, mail, rfl, receivers, words, ?_, ?_⟩
              · rw [said, delivered]
              · rw [ended, result]

theorem mailSteps_deliver (client : MailClient) (host : Host) (mail : Mail) :
    mailSteps (client.deliver host mail).events =
      MailClient.reached host (client.steps mail) ++
        if (host.mailFault? .connect).isSome then [] else [.quit] := by
  rw [MailClient.deliver_eq, mailSteps_map]

theorem mailReport_ok_iff (notifier : Notifier) (client : MailClient) (host : Host) (now : Number)
    (failure : Failure) :
    (notifier.mailReport client host now failure).result = .ok () ↔
      (∃ mail, .send mail ∈ mailSteps (notifier.mailReport client host now failure).events) ∧
        host.mailFault? .send = none := by
  let run := notifier.mailReport client host now failure
  rcases notifier.mailReport_cases client host now failure with
    ⟨silent, broken⟩ | ⟨body, mail, _, _, _, said, ended⟩
  · simp [silent, broken]
  · have outcome : run.result = .ok () ↔
        MailClient.outcome host (client.steps mail) = .ok () := by
      rw [ended, Run.mapError_eq_ok, MailClient.deliver_eq]
    have sends : (∃ sent, .send sent ∈ mailSteps run.events) ↔
        ∃ sent, MailStep.send sent ∈ MailClient.reached host (client.steps mail) := by
      rw [said, mailSteps_deliver]
      split <;> simp
    change run.result = .ok () ↔ (∃ sent, .send sent ∈ mailSteps run.events) ∧ _
    rw [outcome, sends, MailClient.outcome_eq_ok, MailClient.send_mem_reached]

theorem mailSteps_of_ok
    (handedOver : (notifier.mailReport client host now failure).result = .ok ()) :
    ∃ mail : Mail, mail.IsTo notifier.recipients ∧
      mailSteps (notifier.mailReport client host now failure).events =
        (client.steps mail).map Prod.snd ++ [.quit] := by
  rcases notifier.mailReport_cases client host now failure with
    ⟨_, broken⟩ | ⟨body, mail, _, receivers, _, said, ended⟩
  · exact absurd handedOver broken
  · refine ⟨mail, receivers, ?_⟩
    have outcome : MailClient.outcome host (client.steps mail) = .ok () := by
      rwa [ended, Run.mapError_eq_ok, MailClient.deliver_eq] at handedOver
    have connected : host.mailFault? .connect = none := by
      have calm := ((MailClient.outcome_eq_ok client host mail).mp outcome).1
      simp only [MailClient.firstFault?, MailClient.approach, List.findSome?_cons] at calm
      split at calm
      · cases calm
      · assumption
    rw [said, mailSteps_deliver, MailClient.reached_of_ok outcome, connected]
    rfl

theorem client?_eq_none_iff (notifier : Notifier) :
    notifier.client? = none ↔ notifier.recipients = [] ∨ notifier.client = none ∨
      ∃ client, notifier.client = some client ∧
        (client.host.getD "" = "" ∨ client.sender.getD "" = "") := by
  have unknown (value : Option String) : MailClient.isKnown value = false ↔ value.getD "" = "" := by
    cases value <;> simp [MailClient.isKnown]
  have unable (client : MailClient) : client.isConfigured = false ↔
      client.host.getD "" = "" ∨ client.sender.getD "" = "" := by
    rw [MailClient.isConfigured, Bool.and_eq_false_iff, unknown, unknown]
  unfold client?
  cases recipients : notifier.recipients with
  | nil => simp
  | cons first others =>
      cases known : notifier.client with
      | none => simp
      | some client => simp [Option.filter, ← unable]

theorem client?_eq_some (found : notifier.client? = some client) :
    notifier.client = some client := by
  unfold client? at found
  split at found
  · cases found
  · exact (Option.filter_eq_some_iff.mp found).1

theorem notify_of_client (found : notifier.client? = some client) (host : Host) (now : Number)
    (failure : Failure) :
    mailSteps (notifier.notify host now failure).events =
        mailSteps (notifier.mailReport client host now failure).events ∧
      ((notifier.notify host now failure).result = .ok true ↔
        (notifier.mailReport client host now failure).result = .ok ()) := by
  simp only [notify, found]
  split
  next ended => simp [ended]
  next problem ended =>
    split
    · simp [ended]
    · simp [ended, mailSteps, Event.mailStep?]

/-- A notifier tells the truth. On a host without interrupts it always answers. It says that the
report was handed over exactly if the server was sent a mail and took it, and then this was one mail
over one connection, to whom the line of all recipients names; that line names each of them if they
are plain addresses. If it lacks what it needs, it does not even ask for the address of the host. -/
theorem notify_truthful {host : Host} (ordinary : host.Ordinary) (notifier : Notifier)
    (now : Number) (failure : Failure) :
    let run := notifier.notify host now failure
    ∃ sent, run.result = .ok sent ∧
      (sent = true ↔ (∃ mail, .mail (.send mail) ∈ run.events) ∧ host.mailFault? .send = none) ∧
      (sent = true → ∃ client mail, notifier.client = some client ∧
        mail.IsTo notifier.recipients ∧
        ((∀ recipient ∈ notifier.recipients, AddressHeader.isPlainAddress recipient = true) →
          mail.recipients = ", ".intercalate notifier.recipients) ∧
        mailSteps run.events = .connect client.host client.port client.timeout ::
          client.greeting.map Prod.snd ++ [.send mail, .quit]) ∧
      (notifier.recipients = [] ∨ notifier.client = none ∨
        (∃ client, notifier.client = some client ∧
          (client.host.getD "" = "" ∨ client.sender.getD "" = "")) →
        sent = false ∧ mailSteps run.events = [] ∧ ∀ url, .lookUp url ∉ run.events) := by
  intro run
  obtain ⟨sent, returned⟩ := notify_returns ordinary notifier now failure
  refine ⟨sent, returned, ?_⟩
  rw [← client?_eq_none_iff]
  simp only [← mem_mailSteps]
  cases found : notifier.client? with
  | none =>
      have quiet : run = ⟨[.log .warning
          "Will not send failure notification due to missing recipients or mail client config"],
          .ok false⟩ := by
        simp only [run, notify, found]
      have refused : sent = false := by
        change run.result = .ok sent at returned
        rw [quiet] at returned
        exact (Except.ok.inj returned).symm
      rw [quiet, refused]
      simp [mailSteps, Event.mailStep?]
  | some client =>
      obtain ⟨said, answered⟩ := notify_of_client found host now failure
      have handedOver : sent = true ↔
          (notifier.mailReport client host now failure).result = .ok () := by
        rw [← answered, returned, Except.ok.injEq]
      refine ⟨?_, ?_, fun unable => nomatch unable⟩
      · rw [handedOver, mailReport_ok_iff]
        simp only [run, said]
      · intro succeeded
        obtain ⟨mail, receivers, steps⟩ := mailSteps_of_ok (handedOver.mp succeeded)
        refine ⟨client, mail, client?_eq_some found, receivers, receivers.eq_of_plain, ?_⟩
        rw [said, steps]
        simp [MailClient.steps, MailClient.approach]

def sample : Notifier where
  client := some
    { host := some "mail.example", username := some "warden", password := some "open"
      sender := some "warden@host.example", useTls := true }
  recipients := ["one@host.example", "two@host.example"]

def crash : Failure where
  flags := ["-daemons", "httpd"]
  cause := "main program exited with status 1"
  pid := some 101
  output := { capacity := 64, positive := by decide }
  errors := { capacity := 64, positive := by decide }

theorem notify_truthful_accepted :
    Host.quiet.Ordinary ∧ ∃ mail,
      mail.recipients = "one@host.example, two@host.example" ∧
      mailSteps (sample.notify Host.quiet (.whole 1700000000) crash).events =
        [.connect (some "mail.example") (some (.whole 25)) (some (.whole 30)), .startTls,
          .login "warden" (some "open"), .send mail, .quit] := by
  obtain ⟨sent, returned, _, delivered, _⟩ :=
    notify_truthful Host.quiet_ordinary sample (.whole 1700000000) crash
  have accepted :
      (sample.notify Host.quiet (.whole 1700000000) crash).result.toOption = some true := by
    decide +kernel
  rw [returned] at accepted
  obtain ⟨client, mail, found, _, receivers, steps⟩ := delivered (Option.some.inj accepted)
  cases found
  exact ⟨Host.quiet_ordinary, mail, receivers (by decide), steps⟩

/-- A recipient who is only a comment is passed over without a word. -/
theorem not_notify_all_recipients :
    let notifier := { sample with recipients := ["one@host.example", "(two@host.example)"] }
    let run := notifier.notify Host.quiet (.whole 1700000000) crash
    Host.quiet.Ordinary ∧ run.result.toOption = some true ∧
      (sentMails run.events).map Mail.recipients = ["one@host.example"] := by
  refine ⟨Host.quiet_ordinary, ?_, ?_⟩ <;> decide +kernel

end Notifier

end Warden
