import Warden.Proofs.Delivery
import Warden.Proofs.HeaderLines

/-!
The steps of sending a mail. A mail that cannot be composed is refused before the server is asked for
anything. Any other one goes through its steps in their order, up to the one that fails, and where
encryption is asked for, neither credentials nor mail are on a connection without it.
-/

namespace Warden

def MailStep.isConfidential : MailStep → Bool
  | .login _ _ | .send _ => true
  | _ => false

namespace MailClient

def Problem.isBadValue : Problem → Bool
  | .noRecipients | .brokenHeader | .halves _ | .addresses .lineEnd => true
  | .addresses _ | .noBody | .fault _ => false

/-- Why a header line cannot be written: it is broken, or what it says cannot be read. -/
def LineFails (read : String → Except Problem String) (text : String) (problem : Problem) : Prop :=
  Text.IsBroken text ∧ problem = .brokenHeader ∨
    ¬Text.IsBroken text ∧ read text = .error problem

/-- A mail that cannot be composed, and why: nobody is to get it, or the first of its header lines
that fails, in the order of subject, sender and recipients. -/
inductive IsRefused (client : MailClient) (subject : String) (recipients : List String) :
    Problem → Prop
  | nobody (none : recipients = []) : IsRefused client subject recipients .noRecipients
  | subject {problem : Problem} (somebody : recipients ≠ [])
      (fails : LineFails titleText subject problem) : IsRefused client subject recipients problem
  | sender {problem : Problem} (somebody : recipients ≠ [])
      (titled : ∀ other, ¬LineFails titleText subject other)
      (fails : LineFails addressText (client.sender.getD nothing) problem) :
      IsRefused client subject recipients problem
  | recipients {problem : Problem} (somebody : recipients ≠ [])
      (titled : ∀ other, ¬LineFails titleText subject other)
      (sent : ∀ other, ¬LineFails addressText (client.sender.getD nothing) other)
      (fails : LineFails addressText (", ".intercalate recipients) problem) :
      IsRefused client subject recipients problem

def verdict (host : Host) (steps : List (MailStage × MailStep)) : Except Problem Unit :=
  match host.mailFailure with
  | some (stage, fault) => if stage ∈ steps.map Prod.fst then .error (.fault fault) else .ok ()
  | none => .ok ()

variable {client : MailClient} {host : Host} {subject body : String} {recipients : List String}

theorem headerLine_of_sound {read : String → Except Problem String} {text : String}
    (sound : ∀ problem, ¬LineFails read text problem) :
    ¬Text.IsBroken text ∧ ∃ said, read text = .ok said ∧ headerLine read text = .ok said := by
  cases line : headerLine read text with
  | error problem => exact absurd (headerLine_eq_error.mp line) (sound problem)
  | ok said =>
      have whole : Text.isMultiline text = false := by
        cases broken : Text.isMultiline text with
        | false => rfl
        | true => simp [headerLine, broken] at line
      refine ⟨fun broken => ?_, said, by simpa [headerLine, whole] using line, rfl⟩
      rw [Text.isMultiline_iff.mpr broken] at whole
      cases whole

theorem compose_of_refused (body : String) {problem : Problem}
    (refused : client.IsRefused subject recipients problem) :
    client.compose (some subject) (some body) recipients = .error problem := by
  cases refused with
  | nobody none =>
      subst none
      rfl
  | subject somebody fails =>
      rw [compose_of_somebody _ _ _ somebody, Option.getD_some, headerLine_eq_error.mpr fails]
      rfl
  | sender somebody titled fails =>
      obtain ⟨_, title, _, line⟩ := headerLine_of_sound titled
      rw [compose_of_somebody _ _ _ somebody, Option.getD_some, line,
        headerLine_eq_error.mpr fails]
      rfl
  | recipients somebody titled sent fails =>
      obtain ⟨_, title, _, line⟩ := headerLine_of_sound titled
      obtain ⟨_, sender, _, origin⟩ := headerLine_of_sound sent
      rw [compose_of_somebody _ _ _ somebody, Option.getD_some, line, origin,
        headerLine_eq_error.mpr fails]
      rfl

theorem sound_of_accepted (accepted : ∀ problem, ¬client.IsRefused subject recipients problem) :
    recipients ≠ [] ∧ (∀ problem, ¬LineFails titleText subject problem) ∧
      (∀ problem, ¬LineFails addressText (client.sender.getD nothing) problem) ∧
      ∀ problem, ¬LineFails addressText (", ".intercalate recipients) problem := by
  have somebody : recipients ≠ [] := fun none => accepted _ (.nobody none)
  have titled (problem : Problem) (fails : LineFails titleText subject problem) : False :=
    accepted problem (.subject somebody fails)
  have sent (problem : Problem)
      (fails : LineFails addressText (client.sender.getD nothing) problem) : False :=
    accepted problem (.sender somebody titled fails)
  exact ⟨somebody, titled, sent, fun problem fails =>
    accepted problem (.recipients somebody titled sent fails)⟩

theorem compose_of_accepted (body : String)
    (accepted : ∀ problem, ¬client.IsRefused subject recipients problem) :
    ∃ mail, titleText subject = .ok mail.subject ∧
      addressText (client.sender.getD nothing) = .ok mail.sender ∧
      addressText (", ".intercalate recipients) = .ok mail.recipients ∧
      mail.body = Text.mailBody body ∧
      client.compose (some subject) (some body) recipients = .ok mail := by
  obtain ⟨somebody, titled, sent, addressed⟩ := sound_of_accepted accepted
  obtain ⟨_, title, readable, first⟩ := headerLine_of_sound titled
  obtain ⟨_, sender, known, second⟩ := headerLine_of_sound sent
  obtain ⟨_, receivers, named, third⟩ := headerLine_of_sound addressed
  exact ⟨⟨title, sender, receivers, Text.mailBody body⟩, readable, known, named, rfl,
    compose_eq_ok.mpr ⟨somebody, first, second, third, rfl⟩⟩

/-- A mail that is refused for nobody to get it or for a line end inside a header line, where the
sender is no address that cannot be read. -/
def IsPlainlyRefused (client : MailClient) (subject : String) (recipients : List String) : Prop :=
  recipients = [] ∨ Text.IsBroken subject ∨ Text.IsBroken (client.sender.getD nothing) ∨
    Text.IsBroken (", ".intercalate recipients) ∧
      ∃ said, addressText (client.sender.getD nothing) = .ok said

theorem isBadValue_of_title {problem : Problem} (fails : LineFails titleText subject problem) :
    problem.isBadValue = true := by
  obtain ⟨_, rfl⟩ | ⟨_, unread⟩ := fails
  · rfl
  · rw [titleText] at unread
    cases decoded : Text.decodedHeader subject <;> rw [decoded] at unread <;> cases unread
    rfl

theorem isBadValue_of_refused {problem : Problem}
    (plainly : client.IsPlainlyRefused subject recipients)
    (refused : client.IsRefused subject recipients problem) : problem.isBadValue = true := by
  cases refused with
  | nobody none => rfl
  | subject somebody fails => exact isBadValue_of_title fails
  | sender somebody titled fails =>
      obtain ⟨_, rfl⟩ | ⟨whole, unread⟩ := fails
      · rfl
      · obtain none | broken | broken | ⟨_, said, read⟩ := plainly
        · exact absurd none somebody
        · exact absurd (.inl ⟨broken, rfl⟩) (titled .brokenHeader)
        · exact absurd broken whole
        · rw [read] at unread
          cases unread
  | recipients somebody titled sent fails =>
      obtain ⟨_, rfl⟩ | ⟨whole, unread⟩ := fails
      · rfl
      · obtain none | broken | broken | ⟨broken, _⟩ := plainly
        · exact absurd none somebody
        · exact absurd (.inl ⟨broken, rfl⟩) (titled .brokenHeader)
        · exact absurd (.inl ⟨broken, rfl⟩) (sent .brokenHeader)
        · exact absurd broken whole

theorem exists_of_isPlainlyRefused (plainly : client.IsPlainlyRefused subject recipients) :
    ∃ problem, client.IsRefused subject recipients problem := by
  by_contra accepted
  obtain ⟨somebody, titled, sent, addressed⟩ := sound_of_accepted (not_exists.mp accepted)
  obtain none | broken | broken | ⟨broken, _⟩ := plainly
  · exact somebody none
  · exact titled .brokenHeader (.inl ⟨broken, rfl⟩)
  · exact sent .brokenHeader (.inl ⟨broken, rfl⟩)
  · exact addressed .brokenHeader (.inl ⟨broken, rfl⟩)

theorem outcome_eq_verdict (host : Host) (steps : List (MailStage × MailStep)) :
    outcome host steps = verdict host steps := by
  unfold outcome verdict
  cases failure : host.mailFailure with
  | none =>
      have calm : firstFault? host steps = none :=
        List.findSome?_eq_none_iff.mpr fun step _ => by simp [Host.mailFault?, failure]
      rw [calm]
  | some failing =>
      obtain ⟨stage, fault⟩ := failing
      have first : firstFault? host steps =
          if stage ∈ steps.map Prod.fst then some fault else none := by
        induction steps with
        | nil => rfl
        | cons step rest ih =>
            simp only [firstFault?, List.findSome?_cons, Host.mailFault?, failure] at ih ⊢
            by_cases here : stage = step.1
            · simp [here]
            · simp only [here, if_false, ih, List.map_cons, List.mem_cons, false_or]
      rw [first]
      by_cases taken : stage ∈ steps.map Prod.fst <;> simp [taken]

def conversation (client : MailClient) (host : Host) (mail : Mail) : List MailStep :=
  reached host (client.steps mail) ++ if (host.mailFault? .connect).isSome then [] else [.quit]

theorem encrypted_of_confidential (encrypts : client.useTls = true) {mail : Mail}
    {front back : List MailStep} {step : MailStep}
    (said : client.conversation host mail = front ++ step :: back)
    (confidential : step.isConfidential = true) :
    .startTls ∈ front ∧ host.mailFault? .startTls = none := by
  obtain ⟨rest, steps⟩ : ∃ rest, client.steps mail =
      (.connect, .connect client.host client.port client.timeout) ::
        (.startTls, .startTls) :: rest := by
    simp [MailClient.steps, approach, greeting, encrypts]
  simp only [conversation, steps, reached, List.cons_append] at said
  cases front with
  | nil =>
      obtain ⟨rfl, -⟩ := List.cons.inj said
      cases confidential
  | cons opening front =>
      obtain ⟨-, said⟩ := List.cons.inj said
      cases connecting : host.mailFault? .connect with
      | some fault => simp [connecting] at said
      | none =>
          simp only [connecting, Option.isSome_none, Bool.false_eq_true, if_false,
            List.cons_append] at said
          cases front with
          | nil =>
              obtain ⟨rfl, -⟩ := List.cons.inj said
              cases confidential
          | cons encryption front =>
              obtain ⟨same, said⟩ := List.cons.inj said
              refine ⟨by simp [← same], ?_⟩
              cases encrypting : host.mailFault? .startTls with
              | none => rfl
              | some fault =>
                  have last : step ∈ [MailStep.quit] := by
                    simp only [encrypting, Option.isSome_some, if_true, List.nil_append] at said
                    exact said ▸ List.mem_append_right front List.mem_cons_self
                  obtain rfl := List.mem_singleton.mp last
                  cases confidential

/-- Sending a mail fails closed. One that cannot be composed is refused before the server is asked,
with the problem of the first header line that fails. Any other one goes through its steps up to the
one that fails, and a connection that was made ends after that; sending fails with the fault of a
step that is taken, and succeeds without one. Where encryption is asked for, neither credentials nor
mail are said before it or after its failure. -/
theorem send_fails_closed (client : MailClient) (host : Host) (subject body : String)
    (recipients : List String) :
    let run := client.send host (some subject) (some body) recipients
    (∀ problem, client.IsRefused subject recipients problem →
      run.events = [] ∧ run.result = .error problem) ∧
    (client.IsPlainlyRefused subject recipients →
      run.events = [] ∧ ∃ problem, run.result = .error problem ∧ problem.isBadValue = true) ∧
    ((∀ problem, ¬client.IsRefused subject recipients problem) →
      ∃ mail, titleText subject = .ok mail.subject ∧
        addressText (client.sender.getD nothing) = .ok mail.sender ∧
        addressText (", ".intercalate recipients) = .ok mail.recipients ∧
        mail.body = Text.mailBody body ∧
        mailSteps run.events = client.conversation host mail ∧
        run.result = verdict host (client.steps mail)) ∧
    (client.useTls = true → ∀ front step back, mailSteps run.events = front ++ step :: back →
      step.isConfidential = true → .startTls ∈ front ∧ host.mailFault? .startTls = none) := by
  intro run
  have refused (problem : Problem) (refusal : client.IsRefused subject recipients problem) :
      run.events = [] ∧ run.result = .error problem := by
    rw [show run = _ from send_of_broken (compose_of_refused body refusal)]
    exact ⟨rfl, rfl⟩
  have sent (accepted : ∀ problem, ¬client.IsRefused subject recipients problem) :
      ∃ mail, titleText subject = .ok mail.subject ∧
        addressText (client.sender.getD nothing) = .ok mail.sender ∧
        addressText (", ".intercalate recipients) = .ok mail.recipients ∧
        mail.body = Text.mailBody body ∧
        mailSteps run.events = client.conversation host mail ∧
        run.result = verdict host (client.steps mail) := by
    obtain ⟨mail, title, sender, receivers, words, composed⟩ := compose_of_accepted body accepted
    obtain ⟨said, ended⟩ : mailSteps run.events = mailSteps (client.deliver host _).events ∧
        run.result = (client.deliver host _).result := send_of_composed composed
    refine ⟨mail, title, sender, receivers, words, ?_, ?_⟩
    · rw [said, deliver_eq, mailSteps_map]
      rfl
    · rw [← outcome_eq_verdict, ended, deliver_eq]
  refine ⟨refused, fun plainly => ?_, sent, fun encrypts front step back spoken confidential => ?_⟩
  · obtain ⟨problem, refusal⟩ := exists_of_isPlainlyRefused plainly
    obtain ⟨silent, failed⟩ := refused problem refusal
    exact ⟨silent, problem, failed, isBadValue_of_refused plainly refusal⟩
  · by_cases accepted : ∀ problem, ¬client.IsRefused subject recipients problem
    · obtain ⟨mail, _, _, _, _, said, _⟩ := sent accepted
      exact encrypted_of_confidential encrypts (said.symm.trans spoken) confidential
    · obtain ⟨problem, refusal⟩ := not_forall_not.mp accepted
      rw [(refused problem refusal).1] at spoken
      simp [mailSteps] at spoken

theorem not_lineFails_of_isOk {read : String → Except Problem String} {text : String}
    (whole : ¬Text.IsBroken text) (readable : (read text).isOk = true) (problem : Problem) :
    ¬LineFails read text problem := by
  rintro (⟨broken, _⟩ | ⟨_, unread⟩)
  · exact whole broken
  · rw [unread] at readable
    cases readable

theorem addressText_of_unfinished : addressText "one@" = .error (.addresses .pastTextEnd) := by
  have failed : (match AddressHeader.decoded "one@" with
      | .error problem => decide (problem = .pastTextEnd)
      | .ok _ => false) = true := by decide +kernel
  rw [addressText]
  cases read : AddressHeader.decoded "one@" with
  | error problem =>
      rw [read] at failed
      obtain rfl := of_decide_eq_true failed
      rfl
  | ok symbols =>
      rw [read] at failed
      cases failed

theorem send_fails_closed_unencrypted :
    let client : MailClient :=
      { host := some "mail.example", username := some "warden", password := some "open"
        sender := some "warden@host.example", useTls := true }
    let fault : Fault := ⟨.mailServer, "no encryption"⟩
    let host := { Host.quiet with mailFailure := some (.startTls, fault) }
    let send := fun subject recipients => client.send host (some subject) (some "All well") recipients
    let sound := send "Report" ["one@host.example"]
    (client.IsPlainlyRefused "two\nlines" ["one@host.example"] ∧
        (send "two\nlines" ["one@host.example"]).events = []) ∧
      (client.IsRefused "Report" ["one@"] (.addresses .pastTextEnd) ∧
        (send "Report" ["one@"]).result = .error (.addresses .pastTextEnd)) ∧
      (∀ problem, ¬client.IsRefused "Report" ["one@host.example"] problem) ∧
      mailSteps sound.events =
        [.connect (some "mail.example") (some (.whole 25)) (some (.whole 30)), .startTls, .quit] ∧
      sound.result = .error (.fault fault) ∧ client.useTls = true ∧
      ∀ step ∈ mailSteps sound.events, step.isConfidential = false := by
  intro client fault host send sound
  have titled : ∀ problem, ¬LineFails titleText "Report" problem :=
    not_lineFails_of_isOk (by decide) (by decide +kernel)
  have sent : ∀ problem, ¬LineFails addressText "warden@host.example" problem :=
    not_lineFails_of_isOk (by decide) (by decide +kernel)
  have plainly : client.IsPlainlyRefused "two\nlines" ["one@host.example"] :=
    .inr (.inl (by decide))
  have refusal : client.IsRefused "Report" ["one@"] (.addresses .pastTextEnd) :=
    .recipients (by simp) titled sent (.inr ⟨by decide, addressText_of_unfinished⟩)
  have accepted (problem : Problem) : ¬client.IsRefused "Report" ["one@host.example"] problem := by
    rintro (none | ⟨_, fails⟩ | ⟨_, _, fails⟩ | ⟨_, _, _, fails⟩)
    · cases none
    · exact titled problem fails
    · exact sent problem fails
    · exact not_lineFails_of_isOk (by decide) (by decide +kernel) problem fails
  obtain ⟨_, plain, _, _⟩ :=
    client.send_fails_closed host "two\nlines" "All well" ["one@host.example"]
  obtain ⟨refused, _, _, _⟩ := client.send_fails_closed host "Report" "All well" ["one@"]
  obtain ⟨_, _, carried, encrypted⟩ :=
    client.send_fails_closed host "Report" "All well" ["one@host.example"]
  obtain ⟨mail, _, _, _, _, said, ended⟩ := carried accepted
  refine ⟨⟨plainly, (plain plainly).1⟩, ⟨refusal, (refused _ refusal).2⟩, accepted, said, ended, rfl,
    fun step member => ?_⟩
  obtain ⟨front, back, split⟩ := List.append_of_mem member
  cases confidential : step.isConfidential with
  | false => rfl
  | true => cases (encrypted rfl front step back split confidential).2

/-- A mail to somebody with whole subject and recipients is refused all the same if its sender is
broken, if an encoded word of its subject stands for half a character, or if a recipient is no
address that can be read. -/
theorem not_send_from_broken_sender :
    let sound : MailClient := { host := some "mail.example", sender := some "warden@host.example" }
    let broken := { sound with sender := some "warden\nroot@host.example" }
    let recipients := ["one@host.example"]
    let half := "=?utf-7?q?+2AA-?="
    let send := fun (client : MailClient) subject recipients =>
      client.send Host.quiet (some subject) (some "All well") recipients
    (¬Text.IsBroken "Report" ∧ ¬Text.IsBroken half ∧
      ¬Text.IsBroken (", ".intercalate recipients) ∧ ¬Text.IsBroken "one@" ∧
      Host.quiet.mailFailure = none) ∧
    ((send broken "Report" recipients).events = [] ∧
      (send broken "Report" recipients).result ≠ .ok ()) ∧
    ((send sound half recipients).events = [] ∧ (send sound half recipients).result ≠ .ok ()) ∧
    (send sound "Report" ["one@"]).events = [] ∧ (send sound "Report" ["one@"]).result ≠ .ok () := by
  intro sound broken recipients half send
  have refused {client : MailClient} {subject : String} {recipients : List String}
      (failed : (client.compose (some subject) (some "All well") recipients).isOk = false) :
      (send client subject recipients).events = [] ∧
        (send client subject recipients).result ≠ .ok () := by
    cases composed : client.compose (some subject) (some "All well") recipients with
    | ok mail =>
        rw [composed] at failed
        cases failed
    | error problem =>
        rw [show send client subject recipients = _ from send_of_broken composed]
        exact ⟨rfl, nofun⟩
  exact ⟨⟨by decide, by decide, by decide, by decide, rfl⟩, refused (by decide +kernel),
    refused (by decide +kernel), refused (by decide +kernel)⟩

end MailClient

end Warden
