import Warden.ByteLog
import Warden.Report.Address
import Warden.Report.FailureReport
import Warden.Report.MailClient

/-!
The notifier mails a report of each failure of the main program. It does what it can: whatever goes
wrong is logged, and only an interrupt gets through.
-/

namespace Warden

structure Notifier where
  client : Option MailClient
  recipients : List String
  subjectKeyword : Option String := some "launchguard"
  publicAddressUrl : String := ""
  maxReportBytes : Int := 1024 * 1024

structure Failure where
  flags : List String
  cause : String
  pid : Option Int
  output : ByteLog
  errors : ByteLog

namespace Notifier

inductive Problem
  | lookup (fault : Fault)
  | figures (problem : Figures.Problem)
  | mail (problem : MailClient.Problem)

def Problem.message : Problem → String
  | .lookup fault => fault.message
  | .figures problem => problem.message
  | .mail problem => problem.message

def Problem.interrupt? : Problem → Option Fault
  | .lookup fault | .figures (.fault fault) | .mail (.fault fault) =>
      if fault.isOrdinary then none else some fault
  | _ => none

def ofSettings (settings : Settings) : Notifier :=
  { client := some (MailClient.ofSettings settings)
    recipients := settings.recipients
    subjectKeyword := some settings.subjectKeyword
    publicAddressUrl := settings.publicAddressUrl
    maxReportBytes := settings.maxReportBytes }

def client? (notifier : Notifier) : Option MailClient :=
  if notifier.recipients.isEmpty then none else notifier.client.filter MailClient.isConfigured

def canNotify (notifier : Notifier) : Bool :=
  notifier.client?.isSome

def report (notifier : Notifier) (host : Host) (now : Number) (failure : Failure) :
    Run Figures.Problem String := do
  let figures ← Figures.collect host now
  let report : FailureReport :=
    ⟨failure.cause, failure.flags, failure.pid, figures, failure.output.text, failure.errors.text⟩
  return FailureReport.lint report.text notifier.maxReportBytes

def subject (notifier : Notifier) (address : String) : String :=
  notifier.subjectKeyword.getD nothing ++ "-supervisor has detected a failure on " ++ address

def mailReport (notifier : Notifier) (client : MailClient) (host : Host) (now : Number)
    (failure : Failure) : Run Problem Unit := do
  let address ← (publicAddress host notifier.publicAddressUrl).mapFailure .lookup
  let body ← (notifier.report host now failure).mapFailure .figures
  (client.send host (some (notifier.subject address)) (some body)
    notifier.recipients).mapFailure .mail

def notify (notifier : Notifier) (host : Host) (now : Number) (failure : Failure) :
    Run Fault Bool :=
  match notifier.client? with
  | none =>
      ⟨[.log .warning
        "Will not send failure notification due to missing recipients or mail client config"],
        .ok false⟩
  | some client =>
      let run := notifier.mailReport client host now failure
      match run.result with
      | .ok _ => ⟨run.events, .ok true⟩
      | .error problem =>
          match problem.interrupt? with
          | some fault => ⟨run.events, .error fault⟩
          | none =>
              ⟨run.events ++
                [.log .warning ("Failed to send failure notification email: " ++ problem.message)],
                .ok false⟩

end Notifier

end Warden
