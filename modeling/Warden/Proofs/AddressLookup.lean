import Warden.Proofs.Delivery
import Warden.Proofs.HeaderLines

/-!
What the look-up of the host's address does to a notification. Where the look-up fails, the name of
the host takes the place of the address, and the report goes out all the same. An answer that is
looked up stands in the subject as it is, so one that breaks the subject holds the report back.
-/

namespace Warden

def Host.address (host : Host) (url : String) : String :=
  match host.lookup with
  | .ok reply => if url.isEmpty then host.name else reply.address?.getD host.name
  | .error _ => host.name

theorem publicAddress_eq {host : Host}
    (handled : ∀ fault, host.lookup = .error fault → fault.isLookup = true) (url : String) :
    (publicAddress host url).result = .ok (host.address url) := by
  unfold publicAddress Host.address
  split
  next =>
    cases host.lookup <;> rfl
  next =>
    cases answer : host.lookup with
    | error fault => simp [handled fault answer]
    | ok reply =>
        dsimp only
        cases reply.address? with
        | some address => rfl
        | none => dsimp only; split <;> rfl

namespace Notifier

/-- All that a notification needs besides the address of the host. -/
structure Ready (notifier : Notifier) (client : MailClient) (host : Host) (now : Number) :
    Prop where
  known : notifier.client = some client
  configured : client.isConfigured = true
  somebody : notifier.recipients ≠ []
  figures : ∃ figures, (Figures.collect host now).result = .ok figures
  server : host.mailFailure = none
  keyword : Text.holdsLineEnd (notifier.subjectKeyword.getD nothing) = false
  name : Text.holdsLineEnd host.name = false
  receivers : ∀ recipient ∈ notifier.recipients, Text.holdsLineEnd recipient = false

variable {notifier : Notifier} {client : MailClient} {host : Host} {now : Number}

theorem Ready.isMultiline_subject (ready : notifier.Ready client host now) (url : String) :
    Text.isMultiline (notifier.subject (host.address url)) =
      Text.holdsLineEnd (host.address url) := by
  have front : Text.holdsLineEnd
      (notifier.subjectKeyword.getD nothing ++ "-supervisor has detected a failure on ") = false := by
    rw [Text.holdsLineEnd_append, ready.keyword]
    rfl
  have named : Text.isMultiline (notifier.subject host.name) = Text.holdsLineEnd host.name := by
    rw [ready.name]
    refine Text.isMultiline_of_unbroken ?_
    rw [subject, Text.holdsLineEnd_append, front, ready.name]
    rfl
  unfold Host.address
  split
  next reply _ =>
    split
    · exact named
    · unfold Reply.address?
      dsimp only
      split
      · exact Text.isMultiline_append front (Text.getLast?_strip reply.text)
      · exact named
  next => exact named

theorem Ready.client?_eq (ready : notifier.Ready client host now) :
    notifier.client? = some client := by
  have somebody : notifier.recipients.isEmpty = false := by simpa using ready.somebody
  simp [client?, somebody, ready.known, Option.filter, ready.configured]

theorem Ready.report_ok (ready : notifier.Ready client host now) (failure : Failure) :
    ∃ body, (notifier.report host now failure).result = .ok body := by
  obtain ⟨figures, collected⟩ := ready.figures
  exact ⟨_, report_eq_ok.mpr ⟨figures, collected, rfl⟩⟩

theorem deliver_ok (calm : host.mailFailure = none) (client : MailClient) (mail : Mail) :
    (client.deliver host mail).result = .ok () := by
  have none (stage : MailStage) : host.mailFault? stage = none := by
    simp only [Host.mailFault?, calm]
  rw [MailClient.deliver_eq]
  refine (MailClient.outcome_eq_ok client host mail).mpr ⟨?_, none .send⟩
  exact List.findSome?_eq_none_iff.mpr fun step _ => none step.1

theorem interrupt?_of_compose {problem : MailClient.Problem} {subject body : Option String}
    {recipients : List String} (broken : client.compose subject body recipients = .error problem) :
    (Problem.mail problem).interrupt? = none := by
  have bounds : (Run.ofExcept (client.compose subject body recipients)).Bounded (fun _ => True)
      (MailClient.Problem.Within fun fault => fault.isOrdinary = true) :=
    MailClient.compose_bounded client subject body recipients
  exact Problem.interrupt?_eq_none (bounds.failure problem broken)

/-- Exactly when a report goes out that nothing but the look-up and its own header lines could hold
back: if the address of the host, as it stands in the subject, holds no line end, and if the lines of
the subject, the sender and the recipients can be read. Plain addresses always can. -/
theorem notify_whatever_address (ready : notifier.Ready client host now)
    (handled : ∀ fault, host.lookup = .error fault → fault.isLookup = true) (failure : Failure) :
    let address := host.address notifier.publicAddressUrl
    let whole := !Text.holdsLineEnd address && (Text.decodedHeader (notifier.subject address)).isOk
    let sender := client.sender.getD nothing
    (notifier.notify host now failure).result =
        .ok (whole && (MailClient.headerLine MailClient.addressText sender).isOk &&
          (MailClient.headerLine MailClient.addressText
            (", ".intercalate notifier.recipients)).isOk) ∧
      (AddressHeader.isPlainAddress sender = true →
        (∀ recipient ∈ notifier.recipients, AddressHeader.isPlainAddress recipient = true) →
        (notifier.notify host now failure).result = .ok whole) := by
  intro address whole sender
  have asked : (publicAddress host notifier.publicAddressUrl).result = .ok address :=
    publicAddress_eq handled notifier.publicAddressUrl
  obtain ⟨body, described⟩ := ready.report_ok failure
  have sent := (mailReport_of_ok client asked described).2
  have composable := client.compose_isOk (notifier.subject address) body ready.somebody
  rw [MailClient.headerLine_isOk MailClient.titleText, ready.isMultiline_subject,
    MailClient.titleText_isOk] at composable
  have answered : (notifier.notify host now failure).result =
      .ok (client.compose (some (notifier.subject address)) (some body)
        notifier.recipients).isOk := by
    simp only [notify, ready.client?_eq]
    cases composed : client.compose (some (notifier.subject address)) (some body)
        notifier.recipients with
    | error problem =>
        rw [MailClient.send_of_broken composed] at sent
        change _ = Except.error (Problem.mail problem) at sent
        rw [sent]
        simp only [interrupt?_of_compose composed]
        rfl
    | ok mail =>
        rw [(MailClient.send_of_composed composed).2, deliver_ok ready.server] at sent
        rw [sent]
        rfl
  rw [composable] at answered
  refine ⟨answered, fun origin receivers => ?_⟩
  have alone : MailClient.headerLine MailClient.addressText sender = .ok sender :=
    @MailClient.addressLine_of_plain [sender] (by simpa using origin)
  rw [answered, show client.sender.getD nothing = sender from rfl, alone,
    MailClient.addressLine_of_plain receivers]
  change Except.ok (whole && true && true) = _
  rw [Bool.and_true, Bool.and_true]

theorem notify_whatever_address_unavailable :
    let host := { Host.quiet with lookup := .ok ⟨503, "try\nlater"⟩ }
    let notifier := { sample with publicAddressUrl := "https://address.example" }
    (∃ client, notifier.Ready client host (.whole 1700000000)) ∧
      (notifier.notify host (.whole 1700000000) crash).result = .ok true := by
  intro host notifier
  have ready : ∃ client, notifier.Ready client host (.whole 1700000000) :=
    ⟨_, rfl, by decide, by decide, ⟨_, rfl⟩, rfl, by decide, by decide, by decide⟩
  have readable : (Text.decodedHeader (notifier.subject host.name)).isOk = true := by
    decide +kernel
  refine ⟨ready, ?_⟩
  obtain ⟨client, ready⟩ := ready
  obtain rfl : _ = client := Option.some.inj ready.known
  rw [(notify_whatever_address ready (fun fault failed => nomatch failed) crash).2 (by decide)
    (by decide)]
  change Except.ok (!Text.holdsLineEnd host.name &&
    (Text.decodedHeader (notifier.subject host.name)).isOk) = _
  rw [ready.name, readable]
  rfl

/-- An address service that answers with two lines holds the report back. -/
theorem not_notify_two_lines :
    let host := { Host.quiet with lookup := .ok ⟨200, "203.0.113.7\n203.0.113.8\n"⟩ }
    let notifier := { sample with publicAddressUrl := "https://address.example" }
    (∃ client, notifier.Ready client host (.whole 1700000000)) ∧
      (notifier.notify host (.whole 1700000000) crash).result = .ok false := by
  intro host notifier
  refine ⟨⟨_, rfl, by decide, by decide, ⟨_, rfl⟩, rfl, by decide, by decide, by decide⟩, ?_⟩
  have answer :
      (notifier.notify host (.whole 1700000000) crash).result.toOption = some false := by
    decide +kernel
  cases ended : (notifier.notify host (.whole 1700000000) crash).result with
  | error fault =>
      rw [ended] at answer
      cases answer
  | ok sent =>
      rw [ended] at answer
      exact congrArg Except.ok (Option.some.inj answer)

end Notifier

end Warden
